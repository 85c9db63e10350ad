import DescargaP2P.Almacen.Gramatica
import DescargaP2P.Text.Html

/-!
# The page of the store

`to_html` writes the store into the page that the server sends for `/`.  Each name is
put between the marks of a cell as it is.
-/

namespace DescargaP2P.Almacen

open DescargaP2P.Collections
open DescargaP2P.Cpp
open DescargaP2P.Text

/-! ## The texts of the page -/

def estilos : Bytes := ascii "
        <!DOCTYPE html>
        <html>
        <head>
        <style>
        body \x7b
            background-color: #f0f0f0;
            font-family: Arial, sans-serif;
        \x7d

        h2 \x7b
            color: #ff4500;
            text-align: center;
        \x7d

        form \x7b
            width: 50%;
            margin: 0 auto;
            padding: 20px;
            background-color: #fff;
            border-radius: 10px;
            box-shadow: 0 0 20px rgba(0, 0, 0, 0.1);
        \x7d

        label \x7b
            display: block;
            margin-bottom: 10px;
            color: #333;
        \x7d

        input[type=\"text\"] \x7b
            width: 100%;
            padding: 10px;
            margin-bottom: 20px;
            border: 1px solid #ccc;
            border-radius: 5px;
            box-sizing: border-box;
            font-size: 16px;
        \x7d

        input[type=\"submit\"] \x7b
            width: 100%;
            padding: 10px;
            background-color: #ff4500;
            color: #fff;
            border: none;
            border-radius: 5px;
            cursor: pointer;
            font-size: 18px;
            transition: background-color 0.3s ease;
        \x7d

        input[type=\"submit\"]:hover \x7b
            background-color: #ff6347;
        \x7d
        header \x7b
            background-color: rgba(255, 255, 255, 0.3);
            padding: 10px 20px;
            display: flex;
            justify-content: space-between;
            align-items: center;
            box-shadow: 0 2px 4px rgba(0, 0, 0, 0.1);
        \x7d

        h1 \x7b
            text-align: center;
            font-size: 3rem;
            margin-bottom: 30px;
            text-shadow: 2px 2px 4px rgba(0, 0, 0, 0.5);
        \x7d

        div \x7b
            background-color: rgba(255, 255, 255, 0.3);
            padding: 20px;
            border-radius: 10px;
            box-shadow: 0 0 20px rgba(0, 0, 0, 0.2);
            text-align: center;
        \x7d

        p \x7b
            font-size: 1.2rem;
            margin-bottom: 15px;
        \x7d

        strong \x7b
            color: #ff6699;
        \x7d

        .botones \x7b
            display: flex;
        \x7d

        a.button \x7b
            background-color: #ff6347;;
            color: #fff;
            border: none;
            padding: 10px 20px;
            border-radius: 5px;
            margin-left: 10px;
            cursor: pointer;
            transition: background-color 0.3s ease;
        \x7d

        table \x7b
        font-family: arial, sans-serif;
        border-collapse: collapse;
        width: 100%;
        \x7d

        td, th \x7b
        border: 1px solid #dddddd;
        text-align: left;
        padding: 8px;
        \x7d

        tr:nth-child(even) \x7b
        background-color: #dddddd;
        \x7d
"

def cuerpo : Bytes := ascii "        </style>
        </head>
        <body>
            <header>
                <h1>Inicio</h1>
                <div class=\"botones\">
                    <a href=\"/\" class=\"button\">Inicio</a>
                    <a href=\"/perfil\" class=\"button\">Perfil</a>
                </div>
            </header>

        <h2>Enviar fichero al Servidor</h2>
        <form action=\"/guardar\" method=\"POST\">
            <label for=\"nombre_fichero\">Nombre fichero? </label>
            <input type=\"text\" id=\"nombre_fichero\" name=\"nombre_fichero\"><br>
            <label for=\"ip\">IP? </label>
            <input type=\"text\" id=\"ip\" name=\"ip\"><br>
            <label for=\"puerto\">Puerto? </label>
            <input type=\"text\" id=\"puerto\" name=\"puerto\"><br>
            <input type=\"submit\" value=\"Enviar\">
        </form>

"

def encabezados : Bytes := ascii "        <h2>Almacen de direcciones</h2>
        <table>
            <tr>
                <th>Fichero</th>
                <th>Direccion IP</th>
                <th>Puerto</th>
"

def finEncabezados : Bytes := ascii "            </tr>
    "

/-- The page up to the first row with an address. -/
def cabecera : Bytes := estilos ++ cuerpo ++ encabezados ++ finEncabezados

def pie : Bytes := ascii "
            </table>
            </body>
            </html>
        "

/-! ## The loop -/

def abreFila : Bytes := ascii "
                <tr>
                    <td>"

def entreCeldas : Bytes := ascii "</td>
                    <td>"

def cierraFila : Bytes := ascii "</td>
                </tr>
            "

/-- The row of an address: the format with `%1%`, `%2%` and `%3%` replaced. -/
def filaHtml (fichero : Bytes) (direccion : ParIpPuerto) : Bytes :=
  let (ip, puerto) := ipPuertoToString direccion.1 direccion.2
  abreFila ++ fichero ++ entreCeldas ++ ip ++ entreCeldas ++ puerto ++ cierraFila

/-- What one iteration appends. -/
def entradaHtml (f : Bytes × List ParIpPuerto) : Bytes :=
  ascii "<tr>" ++ f.2.flatMap (filaHtml f.1)

/-- The page for a sequence of entries. -/
def pagina (entradas : List (Bytes × List ParIpPuerto)) : Bytes :=
  cabecera ++ (entradas.flatMap entradaHtml ++ pie)

/-- `to_html`. -/
def toHtml (tabla : Tabla) : Bytes := pagina tabla.entries

/-! ## What the page should show -/

/-- The cells of an address. -/
def celdasDe (entrada : Bytes × ParIpPuerto) : List Bytes :=
  let (ip, puerto) := ipPuertoToString entrada.2.1 entrada.2.2
  [entrada.1, ip, puerto]

/-- The entries with the names left out. -/
def sinNombres (entradas : List (Bytes × List ParIpPuerto)) : List (Bytes × List ParIpPuerto) :=
  entradas.map fun f => ([], f.2)

/-- The cells after the header are the name, address and port of every registration, in
the order of the map, and the page has the markup of a page without names. -/
def MuestraElAlmacen (tabla : Tabla) : Prop :=
  cells ((toHtml tabla).drop cabecera.length) = tabla.pairs.flatMap celdasDe ∧
    tags (toHtml tabla) = tags (pagina (sinNombres tabla.entries))

/-! ## Reading the cells -/

theorem abreFila_eq : abreFila = ascii "\n                <tr>\n                    " ++ cellOpening := by
  decide

theorem entreCeldas_eq :
    entreCeldas = cellClosing ++ (ascii "\n                    " ++ cellOpening) := by
  decide

theorem cierraFila_eq :
    cierraFila = cellClosing ++ ascii "\n                </tr>\n            " := by
  decide

/-- A text without `<` does not end a cell. -/
theorem not_cellClosing_infix {text : Bytes} (noOpening : (60 : UInt8) ∉ text) :
    ¬ cellClosing <:+: text :=
  fun inside => noOpening (inside.subset (by decide))

/-- A name that ends a cell opens a tag. -/
theorem opensTag_of_cellClosing {nombre : Bytes} (inside : cellClosing <:+: nombre) :
    OpensTag nombre := by
  obtain ⟨before, after, rfl⟩ := inside
  exact ⟨before, 47, ascii "td>" ++ after, by simp [cellClosing, ascii], rfl⟩

theorem not_mem_inetNtoa (ip : UInt32) : (60 : UInt8) ∉ inetNtoa ip :=
  fun member => ne_of_mem_dottedQuad member (by decide) (by decide) rfl

theorem not_mem_decimal (n : Nat) : (60 : UInt8) ∉ decimal n :=
  fun member => ne_of_isDigit (isDigit_of_mem_decimal member) rfl rfl

/-- A row is read as its three cells. -/
theorem cells_filaHtml {fichero : Bytes} (clean : ¬ cellClosing <:+: fichero)
    (direccion : ParIpPuerto) (rest : Bytes) :
    cells (filaHtml fichero direccion ++ rest) =
      celdasDe (fichero, direccion) ++ cells rest := by
  have ipClean := not_cellClosing_infix (not_mem_inetNtoa direccion.1)
  have portClean := not_cellClosing_infix (not_mem_decimal (ntohs direccion.2).toNat)
  have regrouped : filaHtml fichero direccion ++ rest =
      ascii "\n                <tr>\n                    " ++
        (cellOpening ++ fichero ++ cellClosing ++ (ascii "\n                    " ++
          (cellOpening ++ inetNtoa direccion.1 ++ cellClosing ++ (ascii "\n                    " ++
            (cellOpening ++ decimal (ntohs direccion.2).toNat ++ cellClosing ++
              (ascii "\n                </tr>\n            " ++ rest)))))) := by
    simp only [filaHtml, ipPuertoToString, abreFila_eq, entreCeldas_eq, cierraFila_eq,
      List.append_assoc]
  rw [regrouped, cells_append (by decide) (by decide), cells_cell clean,
    cells_append (by decide) (by decide), cells_cell ipClean,
    cells_append (by decide) (by decide), cells_cell portClean,
    cells_append (by decide) (by decide)]
  rfl

theorem cells_filas {fichero : Bytes} (clean : ¬ cellClosing <:+: fichero)
    (direcciones : List ParIpPuerto) (rest : Bytes) :
    cells (direcciones.flatMap (filaHtml fichero) ++ rest) =
      (direcciones.map (Prod.mk fichero)).flatMap celdasDe ++ cells rest := by
  induction direcciones with
  | nil => rfl
  | cons direccion direcciones ih =>
      rw [List.flatMap_cons, List.append_assoc, cells_filaHtml clean, ih, List.map_cons,
        List.flatMap_cons, List.append_assoc]

/-- The rows of the page are read one after the other. -/
theorem cells_entradas {entradas : List (Bytes × List ParIpPuerto)}
    (clean : ∀ f ∈ entradas, f.2 ≠ [] → ¬ cellClosing <:+: f.1) (rest : Bytes) :
    cells (entradas.flatMap entradaHtml ++ rest) =
      (entradas.flatMap fun f => f.2.map (Prod.mk f.1)).flatMap celdasDe ++ cells rest := by
  induction entradas with
  | nil => rfl
  | cons f entradas ih =>
      obtain ⟨first, others⟩ := List.forall_mem_cons.mp clean
      have row : cells (f.2.flatMap (filaHtml f.1) ++ (entradas.flatMap entradaHtml ++ rest)) =
          (f.2.map (Prod.mk f.1)).flatMap celdasDe ++
            cells (entradas.flatMap entradaHtml ++ rest) := by
        by_cases empty : f.2 = []
        · rw [empty]
          rfl
        · exact cells_filas (first empty) f.2 _
      rw [List.flatMap_cons, entradaHtml, List.append_assoc, List.append_assoc,
        cells_append (by decide) (by decide), row, ih others, List.flatMap_cons,
        List.flatMap_append, List.append_assoc]

theorem cells_pie : cells pie = [] := by
  have read := @cells_append pie (by decide +kernel) (by decide +kernel) []
  rw [List.append_nil] at read
  rw [read]
  rfl

/-- The text of the page after the header. -/
theorem drop_cabecera (entradas : List (Bytes × List ParIpPuerto)) :
    (pagina entradas).drop cabecera.length = entradas.flatMap entradaHtml ++ pie :=
  List.drop_left

/-! ## Reading the markup -/

/-- What follows the name in a row. -/
def restoFila (direccion : ParIpPuerto) : Bytes :=
  ascii "/td>\n                    <td>" ++ inetNtoa direccion.1 ++ entreCeldas ++
    decimal (ntohs direccion.2).toNat ++ cierraFila

theorem filaHtml_eq (fichero : Bytes) (direccion : ParIpPuerto) :
    filaHtml fichero direccion = abreFila ++ (fichero ++ 60 :: restoFila direccion) := by
  have opening : entreCeldas = 60 :: ascii "/td>\n                    <td>" := by decide
  simp only [filaHtml, ipPuertoToString, restoFila, List.append_assoc]
  nth_rewrite 1 [opening]
  rfl

theorem closed_blanks {before blank : Bytes} (noOpening : (60 : UInt8) ∉ blank) :
    Closed (before ++ [62] ++ blank) :=
  (closed_concat before).append (closed_of_not_mem noOpening)

theorem closed_abreFila : Closed abreFila := by
  have ends : abreFila = ascii "\n                <tr>\n                    <td" ++ [62] := by
    decide
  rw [ends]
  exact closed_concat _

/-- A row closes its tags, whatever the name opens. -/
theorem closed_filaHtml (fichero : Bytes) (direccion : ParIpPuerto) :
    Closed (filaHtml fichero direccion) := by
  have ends : cierraFila = ascii "</td>\n                </tr" ++ [62] ++ ascii "\n            " := by
    decide
  have regrouped : filaHtml fichero direccion =
      abreFila ++ fichero ++ entreCeldas ++ inetNtoa direccion.1 ++ entreCeldas ++
        decimal (ntohs direccion.2).toNat ++ ascii "</td>\n                </tr" ++ [62] ++
          ascii "\n            " := by
    simp only [filaHtml, ipPuertoToString, ends, List.append_assoc]
  rw [regrouped]
  exact closed_blanks (by decide)

theorem closed_tr : Closed (ascii "<tr>") := closed_concat (ascii "<tr")

theorem closed_entradaHtml (f : Bytes × List ParIpPuerto) : Closed (entradaHtml f) :=
  closed_tr.append (Closed.flatMap (closed_filaHtml f.1) f.2)

theorem closed_cabecera : Closed cabecera := by
  have ends : finEncabezados = ascii "            </tr" ++ [62] ++ ascii "\n    " := by
    decide
  rw [cabecera, ends, ← List.append_assoc, ← List.append_assoc]
  exact closed_blanks (by decide)

/-- The markup of the page is that of its rows, between the header and the footer. -/
theorem tags_pagina (entradas : List (Bytes × List ParIpPuerto)) :
    tags (pagina entradas) = tags cabecera ++
      ((entradas.flatMap fun f =>
        tags (ascii "<tr>") ++ f.2.flatMap fun direccion => tags (filaHtml f.1 direccion)) ++
        tags pie) := by
  have rows : ∀ f, tags (entradaHtml f) =
      tags (ascii "<tr>") ++ f.2.flatMap fun direccion => tags (filaHtml f.1 direccion) := by
    intro f
    rw [entradaHtml, closed_tr, tags_flatMap (closed_filaHtml f.1)]
  rw [pagina, closed_cabecera, Closed.flatMap closed_entradaHtml, tags_flatMap closed_entradaHtml]
  simp only [rows]

/-- The tags of a name are counted in its row. -/
theorem length_tags_filaHtml (fichero : Bytes) (direccion : ParIpPuerto) :
    (tags (filaHtml fichero direccion)).length =
      (tags (filaHtml [] direccion)).length + (tags fichero).length := by
  rw [filaHtml_eq, filaHtml_eq, closed_abreFila, closed_abreFila, List.length_append,
    List.length_append, length_tags_append_opening, List.nil_append]
  omega

/-- A row has the markup of a row without a name exactly when the name opens no tag. -/
theorem tags_filaHtml_iff (fichero : Bytes) (direccion : ParIpPuerto) :
    tags (filaHtml [] direccion) = tags (filaHtml fichero direccion) ↔ ¬ OpensTag fichero := by
  rw [← tags_eq_nil_iff]
  constructor
  · intro same
    have counted := length_tags_filaHtml fichero direccion
    rw [← same, Nat.left_eq_add] at counted
    exact List.length_eq_zero_iff.mp counted
  · intro none
    rw [filaHtml_eq, filaHtml_eq, closed_abreFila, closed_abreFila, tags_append_opening none,
      List.nil_append]

/-! ## When the page shows the store -/

/-- The page has the markup of a page without names exactly when no name with an address
opens a tag. -/
theorem tags_toHtml_iff (tabla : Tabla) :
    tags (toHtml tabla) = tags (pagina (sinNombres tabla.entries)) ↔
      ∀ entrada ∈ tabla.pairs, ¬ OpensTag entrada.1 := by
  have shorterRow : ∀ (fichero : Bytes) (direccion : ParIpPuerto),
      (tags (filaHtml [] direccion)).length ≤ (tags (filaHtml fichero direccion)).length := by
    intro fichero direccion
    rw [length_tags_filaHtml fichero]
    exact Nat.le_add_right _ _
  have rows : ∀ f : Bytes × List ParIpPuerto,
      (f.2.flatMap fun direccion => tags (filaHtml [] direccion)) =
          (f.2.flatMap fun direccion => tags (filaHtml f.1 direccion)) ↔
        ∀ direccion ∈ f.2, ¬ OpensTag f.1 := by
    intro f
    rw [flatMap_eq_iff fun direccion _ => shorterRow f.1 direccion]
    simp only [tags_filaHtml_iff]
  have shorter : ∀ f ∈ tabla.entries,
      (tags (ascii "<tr>") ++ f.2.flatMap fun direccion => tags (filaHtml [] direccion)).length ≤
        (tags (ascii "<tr>") ++
          f.2.flatMap fun direccion => tags (filaHtml f.1 direccion)).length := by
    intro f _
    rw [List.length_append, List.length_append]
    exact Nat.add_le_add_left (length_flatMap_le fun direccion _ => shorterRow f.1 direccion) _
  rw [eq_comm, toHtml, tags_pagina, tags_pagina, sinNombres, List.flatMap_map,
    List.append_cancel_left_eq, List.append_cancel_right_eq, flatMap_eq_iff shorter]
  simp only [List.append_cancel_left_eq, rows, OrderedMap.pairs, List.mem_flatMap, List.mem_map]
  constructor
  · rintro clean entrada ⟨f, member, direccion, inside, rfl⟩
    exact clean f member direccion inside
  · intro clean f member direccion inside
    exact clean (f.1, direccion) ⟨f, member, direccion, inside, rfl⟩

/-- The page shows the store and nothing else exactly when no name with an address has a
`<` before a letter, `/`, `!` or `?`. -/
theorem pagina_muestra_el_almacen_iff (tabla : Tabla) :
    MuestraElAlmacen tabla ↔ ∀ entrada ∈ tabla.pairs, ¬ OpensTag entrada.1 := by
  constructor
  · exact fun shown => (tags_toHtml_iff tabla).mp shown.2
  · intro clean
    refine ⟨?_, (tags_toHtml_iff tabla).mpr clean⟩
    have cellsClean : ∀ f ∈ tabla.entries, f.2 ≠ [] → ¬ cellClosing <:+: f.1 := by
      intro f member some inside
      obtain ⟨direccion, direcciones, held⟩ := List.exists_cons_of_ne_nil some
      have listed : (f.1, direccion) ∈ tabla.pairs := by
        apply List.mem_flatMap.mpr
        exact ⟨f, member, List.mem_map.mpr ⟨direccion, by rw [held]; exact List.mem_cons_self, rfl⟩⟩
      exact clean (f.1, direccion) listed (opensTag_of_cellClosing inside)
    rw [toHtml, drop_cabecera, cells_entradas cellsClean, cells_pie, List.append_nil]
    rfl

/-- A name that ends its cell and begins another shows two cells for one name. -/
theorem un_nombre_agrega_una_celda :
    let tabla : Tabla := OrderedMap.empty.append (ascii "x</td><td>y") (0x04030201, 0x5000)
    agregarCliente OrderedMap.empty (ascii "x</td><td>y</>1.2.3.4</>80</>") = some (true, tabla) ∧
      cells ((toHtml tabla).drop cabecera.length) =
        [ascii "x", ascii "y", ascii "1.2.3.4", ascii "80"] ∧
      tabla.pairs.flatMap celdasDe = [ascii "x</td><td>y", ascii "1.2.3.4", ascii "80"] ∧
      ¬ MuestraElAlmacen tabla := by
  intro tabla
  have stored : agregarCliente OrderedMap.empty (ascii "x</td><td>y</>1.2.3.4</>80</>") =
      some (true, tabla) := by decide +kernel
  have read : cells ((toHtml tabla).drop cabecera.length) =
      [ascii "x", ascii "y", ascii "1.2.3.4", ascii "80"] := by
    rw [toHtml, drop_cabecera]
    decide +kernel
  have wanted : tabla.pairs.flatMap celdasDe =
      [ascii "x</td><td>y", ascii "1.2.3.4", ascii "80"] := by decide +kernel
  refine ⟨stored, read, wanted, ?_⟩
  rintro ⟨shown, _⟩
  rw [read, wanted] at shown
  exact absurd shown (by decide)

end DescargaP2P.Almacen
