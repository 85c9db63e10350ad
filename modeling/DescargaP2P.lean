import DescargaP2P.Almacen.Carreras
import DescargaP2P.Almacen.Concurrencia
import DescargaP2P.Almacen.Core
import DescargaP2P.Almacen.Gramatica
import DescargaP2P.Almacen.Guardado
import DescargaP2P.Almacen.Historia
import DescargaP2P.Almacen.Pagina
import DescargaP2P.Almacen.Persistencia
import DescargaP2P.Almacen.Recuperacion
import DescargaP2P.Almacen.Registros
import DescargaP2P.Almacen.Reinicios
import DescargaP2P.Blocks.Core
import DescargaP2P.Cliente.Core
import DescargaP2P.Cliente.Descarga
import DescargaP2P.Cliente.Direccion
import DescargaP2P.Cliente.Escucha
import DescargaP2P.Cliente.Hebras
import DescargaP2P.Cliente.Menu
import DescargaP2P.Cliente.Servicio
import DescargaP2P.Cliente.Transferencia
import DescargaP2P.Collections.OrderedMap
import DescargaP2P.Cpp.Descriptors
import DescargaP2P.Cpp.Inet
import DescargaP2P.Cpp.OutputStreams
import DescargaP2P.Cpp.Process
import DescargaP2P.Cpp.StandardInput
import DescargaP2P.Cpp.Streams
import DescargaP2P.Cpp.Strings
import DescargaP2P.Crow.Connection
import DescargaP2P.Crow.Dispatch
import DescargaP2P.Crow.Filenames
import DescargaP2P.Crow.Framing
import DescargaP2P.Crow.Insertion
import DescargaP2P.Crow.Markup
import DescargaP2P.Crow.Meaning
import DescargaP2P.Crow.Printing
import DescargaP2P.Crow.Registration
import DescargaP2P.Crow.Rendering
import DescargaP2P.Crow.Router
import DescargaP2P.Crow.Sections
import DescargaP2P.Crow.Templates
import DescargaP2P.Crow.Trees
import DescargaP2P.Crow.Trie
import DescargaP2P.Paths.Core
import DescargaP2P.Patterns.Core
import DescargaP2P.ReqRep.Core
import DescargaP2P.Servidor.Apagado
import DescargaP2P.Servidor.Bucle
import DescargaP2P.Servidor.Core
import DescargaP2P.Servidor.Formulario
import DescargaP2P.Servidor.Listado
import DescargaP2P.Servidor.Rutas
import DescargaP2P.Servidor.Sesiones
import DescargaP2P.Servidor.Vias
import DescargaP2P.Servidor.Web
import DescargaP2P.Sistema.Aislamiento
import DescargaP2P.Sistema.Core
import DescargaP2P.Sistema.Fidelidad
import DescargaP2P.Sistema.Formularios
import DescargaP2P.Sistema.Frentes
import DescargaP2P.Sistema.Fugas
import DescargaP2P.Sistema.Indice
import DescargaP2P.Sistema.Pares
import DescargaP2P.Sistema.Puertos
import DescargaP2P.Sistema.Serie
import DescargaP2P.Sistema.Sincronia
import DescargaP2P.Sistema.Solicitud
import DescargaP2P.Text.Bytes
import DescargaP2P.Text.Html
import DescargaP2P.Text.Search
import DescargaP2P.Transition.Core
import DescargaP2P.Transition.Fairness
import DescargaP2P.Transition.Fuel
import DescargaP2P.Transition.Iteration
import DescargaP2P.Transition.Threads
import DescargaP2P.Url.Encoding
