import DescargaP2P.Cliente.Core
import DescargaP2P.Servidor.Web

/-!
# What a name can do to an address

The three fields of a registration travel in one text, with a separator that is not
escaped and not looked for in the fields.  A name that holds the separator puts fields
of its own before those that follow.
-/

namespace DescargaP2P.Sistema

open DescargaP2P.Almacen
open DescargaP2P.Cliente
open DescargaP2P.Collections
open DescargaP2P.Servidor
open DescargaP2P.Text

/-- A registration from the form or from the menu. -/
inductive Envio
  | formulario (body : Bytes)
  | opcion1 (nombre ip puerto : Bytes)

namespace Envio

/-- The name that is submitted. -/
def nombre : Envio → Bytes
  | .formulario body => datosFormulario body (ascii "nombre_fichero")
  | .opcion1 nombre _ _ => nombre

def ip : Envio → Bytes
  | .formulario body => datosFormulario body (ascii "ip")
  | .opcion1 _ ip _ => ip

def puerto : Envio → Bytes
  | .formulario body => datosFormulario body (ascii "puerto")
  | .opcion1 _ _ puerto => puerto

/-- The request that reaches the store. -/
def peticion : Envio → Bytes
  | .formulario body => formateaSolicitud body
  | .opcion1 nombre ip puerto => solicitud nombre ip puerto

/-- Both kinds join the three fields in the same way. -/
theorem peticion_eq (envio : Envio) :
    envio.peticion = envio.nombre ++ SEPARADOR ++ envio.ip ++ SEPARADOR ++ envio.puerto ++
      SEPARADOR := by
  cases envio with
  | formulario body => rfl
  | opcion1 nombre ip puerto =>
      simp only [peticion, solicitud, separador, List.append_assoc]
      rfl

/-- Fields without a separator are the first three tokens. -/
theorem campos_of_limpio {envio : Envio} (nombreClean : ¬ delimiter <:+: envio.nombre)
    (ipClean : ¬ delimiter <:+: envio.ip) (puertoClean : ¬ delimiter <:+: envio.puerto) :
    Campos envio.peticion envio.nombre envio.ip envio.puerto := by
  rw [peticion_eq]
  exact campos_of_limpios nombreClean ipClean puertoClean

/-- The name that is stored has no separator, whatever was submitted. -/
theorem exists_of_accepted {envio : Envio} {tabla siguiente : Tabla}
    (accepted : agregarCliente tabla envio.peticion = some (true, siguiente)) :
    ∃ fichero direccion, ¬ delimiter <:+: fichero ∧ siguiente = tabla.append fichero direccion := by
  by_cases three : ∃ fichero ip puerto, Campos envio.peticion fichero ip puerto
  · obtain ⟨fichero, ip, puerto, fields⟩ := three
    obtain ⟨numero, _, grown⟩ := fields.exists_of_accepted accepted
    exact ⟨fichero, _, fields.ficheroLimpio, grown⟩
  · rw [agregarCliente_eq_none three] at accepted
    cases accepted

end Envio

/-- Two accepted registrations with the same address fields have stored the same address,
each under the name that was submitted, exactly when neither name has a separator. -/
theorem nombre_sin_fugas_iff {primero segundo : Envio} (sameIp : primero.ip = segundo.ip)
    (samePort : primero.puerto = segundo.puerto) (ipClean : ¬ delimiter <:+: primero.ip)
    (portClean : ¬ delimiter <:+: primero.puerto) {tabla siguiente otra trasOtra : Tabla}
    (firstAccepted : agregarCliente tabla primero.peticion = some (true, siguiente))
    (secondAccepted : agregarCliente otra segundo.peticion = some (true, trasOtra)) :
    (∃ direccion, siguiente = tabla.append primero.nombre direccion ∧
        trasOtra = otra.append segundo.nombre direccion) ↔
      ¬ delimiter <:+: primero.nombre ∧ ¬ delimiter <:+: segundo.nombre := by
  constructor
  · rintro ⟨direccion, firstStored, secondStored⟩
    obtain ⟨_, _, firstClean, grown⟩ := Envio.exists_of_accepted firstAccepted
    obtain ⟨_, _, secondClean, otherGrown⟩ := Envio.exists_of_accepted secondAccepted
    rw [(OrderedMap.append_inj (firstStored.symm.trans grown)).1,
      (OrderedMap.append_inj (secondStored.symm.trans otherGrown)).1]
    exact ⟨firstClean, secondClean⟩
  · rintro ⟨firstClean, secondClean⟩
    have firstFields := Envio.campos_of_limpio firstClean ipClean portClean
    rw [sameIp] at ipClean
    rw [samePort] at portClean
    have secondFields := Envio.campos_of_limpio secondClean ipClean portClean
    obtain ⟨numero, read, firstStored⟩ := firstFields.exists_of_accepted firstAccepted
    obtain ⟨otro, otherRead, secondStored⟩ := secondFields.exists_of_accepted secondAccepted
    rw [samePort, otherRead] at read
    rw [← Except.ok.inj read, sameIp] at firstStored
    exact ⟨_, firstStored, secondStored⟩

/-- A form with a given name and a fixed address. -/
def formularioDe (nombre : Bytes) : Envio :=
  .formulario (ascii "nombre_fichero=" ++ nombre ++ ascii "&ip=1.2.3.4&puerto=80")

theorem nombre_sin_fugas_de_dos_nombres :
    ∃ direccion : ParIpPuerto,
      (OrderedMap.empty.append (ascii "a<") (0x04030201, 0x5000) : Tabla) =
          OrderedMap.empty.append (formularioDe (ascii "a<")).nombre direccion ∧
        (OrderedMap.empty.append (ascii "/>") (0x04030201, 0x5000) : Tabla) =
          OrderedMap.empty.append (formularioDe (ascii "/>")).nombre direccion := by
  have firstAccepted : agregarCliente OrderedMap.empty (formularioDe (ascii "a<")).peticion =
      some (true, OrderedMap.empty.append (ascii "a<") (0x04030201, 0x5000)) := by
    decide +kernel
  have secondAccepted : agregarCliente OrderedMap.empty (formularioDe (ascii "/>")).peticion =
      some (true, OrderedMap.empty.append (ascii "/>") (0x04030201, 0x5000)) := by
    decide +kernel
  exact (nombre_sin_fugas_iff (by decide +kernel) (by decide +kernel) (by decide +kernel)
    (by decide +kernel) firstAccepted secondAccepted).mpr (by decide +kernel)

/-- A name that holds two more fields replaces the address of its form, and of the same
upload from the menu. -/
theorem un_nombre_cambia_la_direccion :
    let nombre := ascii "x</>9.9.9.9</>99"
    let ajena : Tabla := OrderedMap.empty.append (ascii "x") (0x09090909, 0x6300)
    let propia : Tabla := OrderedMap.empty.append (ascii "x") (0x04030201, 0x5000)
    (formularioDe nombre).nombre = nombre ∧
      (formularioDe nombre).ip = (formularioDe (ascii "x")).ip ∧
      (formularioDe nombre).puerto = (formularioDe (ascii "x")).puerto ∧
      ¬ delimiter <:+: (formularioDe nombre).ip ∧ ¬ delimiter <:+: (formularioDe nombre).puerto ∧
      (Envio.opcion1 nombre (ascii "1.2.3.4") (ascii "80")).peticion =
        (formularioDe nombre).peticion ∧
      agregarCliente OrderedMap.empty (formularioDe (ascii "x")).peticion = some (true, propia) ∧
      agregarCliente OrderedMap.empty (formularioDe nombre).peticion = some (true, ajena) ∧
      ¬ ∃ direccion, propia = OrderedMap.empty.append (ascii "x") direccion ∧
        ajena = OrderedMap.empty.append nombre direccion := by
  refine ⟨by decide +kernel, by decide +kernel, by decide +kernel, by decide +kernel,
    by decide +kernel, by decide +kernel, by decide +kernel, by decide +kernel, ?_⟩
  rintro ⟨direccion, _, stored⟩
  have sameName : ascii "x" = ascii "x</>9.9.9.9</>99" := (OrderedMap.append_inj stored).1
  exact absurd sameName (by decide)

end DescargaP2P.Sistema
