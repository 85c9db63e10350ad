import DescargaP2P.Almacen.Registros
import DescargaP2P.Cpp.Streams

/-!
# Saving and loading the store

`salvar_datos` writes one line for each file: its name and all its addresses.
`recuperar_datos` reads triples of a name, an address word and a port, and does
not see line ends.  A text read back therefore gives the table that was written
exactly when no file has a second address.
-/

namespace DescargaP2P.Almacen

open DescargaP2P.Collections
open DescargaP2P.Cpp
open DescargaP2P.Text

/-! ## Writing -/

/-- The path `salvar_datos` writes to: whether it can be opened, and how many
bytes it takes before it fails. -/
structure Salida where
  abre : Bool
  acepta : Option Nat
  deriving DecidableEq, Repr

/-- A path that can be opened and takes every byte. -/
def Salida.sana : Salida where
  abre := true
  acepta := none

/-- What is left of a text written to the path. -/
def Salida.escrito (salida : Salida) (texto : Bytes) : Bytes :=
  match salida.acepta with
  | none => texto
  | some limite => texto.take limite

/-- An address as it is written in the line of its file. -/
def campoDireccion (direccion : ParIpPuerto) : Bytes :=
  decimal direccion.1.toNat ++ ascii " " ++ (decimal direccion.2.toNat ++ ascii " ")

/-- The line of a file. -/
def lineaDatos (par : Bytes × List ParIpPuerto) : Bytes :=
  par.1 ++ ascii " " ++ (par.2.flatMap campoDireccion ++ ascii "\n")

/-- The lines of all files, in map order. -/
def textoDatos (tabla : Tabla) : Bytes := tabla.entries.flatMap lineaDatos

/-- `salvar_datos`: its result and the contents of the file after it.  Opening
truncates the file; errors after that are not looked at. -/
def salvarDatos (salida : Salida) (previo : Option Bytes) (tabla : Tabla) :
    Bool × Option Bytes :=
  if salida.abre then (true, some (salida.escrito (textoDatos tabla))) else (false, previo)

/-- A path that takes a text whole. -/
def Salida.Basta (salida : Salida) (texto : Bytes) : Prop :=
  salida.abre = true ∧ ∀ limite, salida.acepta = some limite → texto.length ≤ limite

theorem Salida.escrito_eq_iff (salida : Salida) (texto : Bytes) :
    salida.escrito texto = texto ↔
      ∀ limite, salida.acepta = some limite → texto.length ≤ limite := by
  unfold Salida.escrito
  cases salida.acepta with
  | none => simp
  | some limite => simp

/-- The whole text is in the file exactly when the path takes it whole. -/
theorem salvarDatos_eq_iff (salida : Salida) (tabla : Tabla) :
    salvarDatos salida none tabla = (true, some (textoDatos tabla)) ↔
      salida.Basta (textoDatos tabla) := by
  unfold salvarDatos Salida.Basta
  cases salida.abre with
  | false => simp
  | true => simp [salida.escrito_eq_iff]

/-! ## Reading -/

/-- `archivo >> fichero >> ip >> puerto`. -/
def leerRegistro (flujo : Bytes) : Option ((Bytes × ParIpPuerto) × Bytes) :=
  match extractWord flujo with
  | none => none
  | some (fichero, trasFichero) =>
      match extractUnsigned 32 trasFichero with
      | none => none
      | some (ip, trasIp) =>
          match extractUnsigned 16 trasIp with
          | none => none
          | some (puerto, resto) =>
              some ((fichero, (UInt32.ofNat ip, UInt16.ofNat puerto)), resto)

/-- The loop of `recuperar_datos`.  The fuel bounds the number of records. -/
def leerRegistros : Nat → Bytes → List (Bytes × ParIpPuerto)
  | 0, _ => []
  | fuel + 1, flujo =>
      match leerRegistro flujo with
      | none => []
      | some (entrada, resto) => entrada :: leerRegistros fuel resto

/-- Records of a text.  Each of them consumes a byte, so its length is enough
fuel. -/
def registrosLeidos (texto : Bytes) : List (Bytes × ParIpPuerto) :=
  leerRegistros texto.length texto

/-- `recuperar_datos`: its result and the table after it.  `tabla[fichero]` makes
an empty list for a new name and `push_back` extends it. -/
def recuperarDatos (previa : Tabla) (archivo : Option Bytes) : Bool × Tabla :=
  match archivo with
  | none => (false, previa)
  | some texto => (true, OrderedMap.empty.appendAll (registrosLeidos texto))

/-- A loaded table has no file without addresses. -/
theorem nonemptyLists_recuperarDatos {previa : Tabla} (nonempty : previa.NonemptyLists)
    (archivo : Option Bytes) : (recuperarDatos previa archivo).2.NonemptyLists := by
  cases archivo with
  | none => exact nonempty
  | some texto => exact OrderedMap.nonemptyLists_empty.appendAll _

/-! ## Reading what was written -/

theorem leerRegistro_espacio {byte : UInt8} (space : isSpace byte = true) (flujo : Bytes) :
    leerRegistro (byte :: flujo) = leerRegistro flujo := by
  rw [leerRegistro, extractWord_cons_space space]
  rfl

/-- A word that `operator>>` reads as a whole. -/
def Palabra (fichero : Bytes) : Prop :=
  fichero ≠ [] ∧ ∀ byte ∈ fichero, isSpace byte = false

/-- The first address of a line is read together with its name. -/
theorem leerRegistro_linea {fichero : Bytes} (word : Palabra fichero) (direccion : ParIpPuerto)
    (resto : Bytes) :
    leerRegistro (fichero ++ ascii " " ++ (campoDireccion direccion ++ resto)) =
      some ((fichero, direccion), ascii " " ++ resto) := by
  have blank : ascii " " = [32] := by decide
  have space : isSpace 32 = true := by decide
  have notDigit : ∀ after : Bytes, ∀ byte ∈ (32 :: after).head?, isDigit byte = false := by
    rintro after byte ⟨⟩
    decide
  have written : fichero ++ ascii " " ++ (campoDireccion direccion ++ resto) =
      fichero ++ 32 :: (decimal direccion.1.toNat ++
        32 :: (decimal direccion.2.toNat ++ 32 :: resto)) := by
    simp [campoDireccion, blank]
  have ends : ∀ byte ∈ (32 :: (decimal direccion.1.toNat ++
      32 :: (decimal direccion.2.toNat ++ 32 :: resto))).head?, isSpace byte = true := by
    rintro byte ⟨⟩
    exact space
  have readName := extractWord_append word.1 word.2 ends
  have readIp := extractUnsigned_decimal direccion.1.toNat_lt
    (notDigit (decimal direccion.2.toNat ++ 32 :: resto))
  have readPort := extractUnsigned_decimal direccion.2.toNat_lt (notDigit resto)
  rw [written]
  simp only [leerRegistro, readName, extractUnsigned_cons_space space, readIp, readPort,
    UInt32.ofNat_toNat, UInt16.ofNat_toNat, blank, List.singleton_append]

/-- The loop depends on the next record only. -/
theorem leerRegistros_congr {flujo otro : Bytes} (same : leerRegistro flujo = leerRegistro otro)
    (fuel : Nat) : leerRegistros fuel flujo = leerRegistros fuel otro := by
  cases fuel with
  | zero => rfl
  | succ fuel => simp only [leerRegistros, same]

/-- What follows an address in its line is read next. -/
theorem leerRegistros_linea {fichero : Bytes} (word : Palabra fichero) (direccion : ParIpPuerto)
    (resto : Bytes) (fuel : Nat) :
    leerRegistros (fuel + 1) (fichero ++ ascii " " ++ (campoDireccion direccion ++ resto)) =
      (fichero, direccion) :: leerRegistros fuel resto := by
  have skipped : leerRegistro (ascii " " ++ resto) = leerRegistro resto :=
    leerRegistro_espacio (by decide) resto
  simp only [leerRegistros, leerRegistro_linea word, leerRegistros_congr skipped]

/-- Lines with one address each are read record by record, and the text after them
next. -/
theorem leerRegistros_lineas {entradas : List (Bytes × List ParIpPuerto)}
    (words : ∀ entrada ∈ entradas, Palabra entrada.1)
    (single : ∀ entrada ∈ entradas, entrada.2.length = 1) (resto : Bytes) (fuel : Nat) :
    leerRegistros (entradas.length + fuel) (entradas.flatMap lineaDatos ++ resto) =
      (entradas.flatMap fun entrada => entrada.2.map (Prod.mk entrada.1)) ++
        leerRegistros fuel resto := by
  induction entradas with
  | nil => simp
  | cons entrada otras ih =>
      obtain ⟨direccion, only⟩ := List.length_eq_one_iff.mp (single entrada List.mem_cons_self)
      have line : (entrada :: otras).flatMap lineaDatos ++ resto =
          entrada.1 ++ ascii " " ++ (campoDireccion direccion ++
            (ascii "\n" ++ (otras.flatMap lineaDatos ++ resto))) := by
        simp [lineaDatos, only]
      have skipped : leerRegistro (ascii "\n" ++ (otras.flatMap lineaDatos ++ resto)) =
          leerRegistro (otras.flatMap lineaDatos ++ resto) :=
        leerRegistro_espacio (by decide) _
      have rest := ih (fun other member => words other (List.mem_cons_of_mem _ member))
        (fun other member => single other (List.mem_cons_of_mem _ member))
      rw [line, List.length_cons, Nat.add_right_comm,
        leerRegistros_linea (words entrada List.mem_cons_self), leerRegistros_congr skipped, rest,
        List.flatMap_cons, only, List.map_singleton, List.singleton_append, List.cons_append]

theorem length_le_length_textoDatos (entradas : List (Bytes × List ParIpPuerto)) :
    entradas.length ≤ (entradas.flatMap lineaDatos).length := by
  induction entradas with
  | nil => exact Nat.le_refl 0
  | cons entrada otras ih =>
      have newline : 1 ≤ (lineaDatos entrada).length := by simp [lineaDatos, ascii]; omega
      rw [List.flatMap_cons, List.length_append, List.length_cons]
      omega

/-- A table with one address for each file is read back. -/
theorem registrosLeidos_textoDatos {tabla : Tabla}
    (words : ∀ entrada ∈ tabla.entries, Palabra entrada.1)
    (single : ∀ entrada ∈ tabla.entries, entrada.2.length = 1) :
    registrosLeidos (textoDatos tabla) = tabla.pairs := by
  obtain ⟨extra, enough⟩ := Nat.exists_eq_add_of_le (length_le_length_textoDatos tabla.entries)
  have finished : leerRegistros extra [] = [] := by
    cases extra <;> rfl
  have read := leerRegistros_lineas words single [] extra
  rwa [← enough, List.append_nil, finished, List.append_nil] at read

/-! ## What was read is no more than what was written -/

/-- Weight of a record, as a line with one address carries it. -/
def coste (entrada : Bytes × ParIpPuerto) : Nat :=
  weight entrada.1 + weight (campoDireccion entrada.2)

theorem weight_decimal (n : Nat) : weight (decimal n) = (decimal n).length :=
  weight_digits fun _ member => isDigit_of_mem_decimal member

theorem weight_campoDireccion (direccion : ParIpPuerto) :
    weight (campoDireccion direccion) =
      (decimal direccion.1.toNat).length + (decimal direccion.2.toNat).length := by
  have blank : weight (ascii " ") = 0 := by decide
  simp only [campoDireccion, weight_append, weight_decimal, blank, Nat.add_zero]

/-- A record weighs no more than the text it was read from. -/
theorem coste_le_of_leerRegistro {flujo resto : Bytes} {entrada : Bytes × ParIpPuerto}
    (read : leerRegistro flujo = some (entrada, resto)) :
    coste entrada + weight resto ≤ weight flujo := by
  unfold leerRegistro at read
  cases name : extractWord flujo with
  | none => simp [name] at read
  | some fields =>
      rcases fields with ⟨fichero, trasFichero⟩
      have nameWeight := weight_of_extractWord name
      cases address : extractUnsigned 32 trasFichero with
      | none => simp [name, address] at read
      | some fields =>
          rcases fields with ⟨ip, trasIp⟩
          have ipWeight := weight_of_extractUnsigned (by decide) address
          cases port : extractUnsigned 16 trasIp with
          | none => simp [name, address, port] at read
          | some fields =>
              rcases fields with ⟨puerto, trasPuerto⟩
              have portWeight := weight_of_extractUnsigned (by decide) port
              simp only [name, address, port, Option.some.injEq, Prod.mk.injEq] at read
              rcases read with ⟨rfl, rfl⟩
              have ipRead : (UInt32.ofNat ip).toNat = ip :=
                UInt32.toNat_ofNat_of_lt' (extractUnsigned_lt address)
              have portRead : (UInt16.ofNat puerto).toNat = puerto :=
                UInt16.toNat_ofNat_of_lt' (extractUnsigned_lt port)
              simp only [coste, weight_campoDireccion, ipRead, portRead]
              omega

theorem sum_coste_leerRegistros_le (fuel : Nat) (flujo : Bytes) :
    ((leerRegistros fuel flujo).map coste).sum ≤ weight flujo := by
  induction fuel generalizing flujo with
  | zero => exact Nat.zero_le _
  | succ fuel ih =>
      rw [leerRegistros]
      cases read : leerRegistro flujo with
      | none => exact Nat.zero_le _
      | some result =>
          rcases result with ⟨entrada, resto⟩
          have first := coste_le_of_leerRegistro read
          have rest := ih resto
          simp only [List.map_cons, List.sum_cons]
          omega

/-- A line weighs its name once and every address. -/
theorem weight_lineaDatos (entrada : Bytes × List ParIpPuerto) :
    weight (lineaDatos entrada) =
      weight entrada.1 + (entrada.2.map fun direccion => weight (campoDireccion direccion)).sum := by
  have blank : weight (ascii " ") = 0 := by decide
  have newline : weight (ascii "\n") = 0 := by decide
  have fields : weight (entrada.2.flatMap campoDireccion) =
      (entrada.2.map fun direccion => weight (campoDireccion direccion)).sum := by
    induction entrada.2 with
    | nil => rfl
    | cons direccion otras ih =>
        rw [List.flatMap_cons, weight_append, ih, List.map_cons, List.sum_cons]
  simp only [lineaDatos, weight_append, blank, newline, fields, Nat.add_zero]

/-- The records of a line weigh its name once for each address. -/
theorem sum_coste_linea (entrada : Bytes × List ParIpPuerto) :
    ((entrada.2.map (Prod.mk entrada.1)).map coste).sum =
      entrada.2.length * weight entrada.1 +
        (entrada.2.map fun direccion => weight (campoDireccion direccion)).sum := by
  induction entrada.2 with
  | nil => simp
  | cons direccion otras ih =>
      simp only [List.map_cons, List.sum_cons, List.length_cons, Nat.succ_mul, coste, ih]
      omega

/-- A line weighs no more than its records. -/
theorem weight_lineaDatos_le {entrada : Bytes × List ParIpPuerto} (nonempty : entrada.2 ≠ []) :
    weight (lineaDatos entrada) ≤ ((entrada.2.map (Prod.mk entrada.1)).map coste).sum := by
  rw [weight_lineaDatos, sum_coste_linea]
  exact Nat.add_le_add_right (Nat.le_mul_of_pos_left _ (List.length_pos_iff.mpr nonempty)) _

theorem weight_lineas_le {entradas : List (Bytes × List ParIpPuerto)}
    (nonempty : ∀ entrada ∈ entradas, entrada.2 ≠ []) :
    weight (entradas.flatMap lineaDatos) ≤
      ((entradas.flatMap fun entrada => entrada.2.map (Prod.mk entrada.1)).map coste).sum := by
  induction entradas with
  | nil => exact Nat.zero_le _
  | cons entrada otras ih =>
      simp only [List.flatMap_cons, weight_append, List.map_append, List.sum_append]
      apply Nat.add_le_add
      · exact weight_lineaDatos_le (nonempty entrada List.mem_cons_self)
      · exact ih fun other member => nonempty other (List.mem_cons_of_mem _ member)

/-- If all records fit in the lines then no line has a second address. -/
theorem length_eq_one_of_sum_coste_le {entradas : List (Bytes × List ParIpPuerto)}
    (words : ∀ entrada ∈ entradas, Palabra entrada.1)
    (nonempty : ∀ entrada ∈ entradas, entrada.2 ≠ [])
    (fits : ((entradas.flatMap fun entrada => entrada.2.map (Prod.mk entrada.1)).map coste).sum ≤
      weight (entradas.flatMap lineaDatos)) :
    ∀ entrada ∈ entradas, entrada.2.length = 1 := by
  induction entradas with
  | nil => simp
  | cons entrada otras ih =>
      obtain ⟨word, otherWords⟩ := List.forall_mem_cons.mp words
      obtain ⟨someAddress, otherNonempty⟩ := List.forall_mem_cons.mp nonempty
      have lineLe := weight_lineaDatos_le someAddress
      have linesLe := weight_lineas_le otherNonempty
      simp only [List.flatMap_cons, weight_append, List.map_append, List.sum_append] at fits
      rw [List.forall_mem_cons]
      constructor
      · have lineFits : ((entrada.2.map (Prod.mk entrada.1)).map coste).sum ≤
            weight (lineaDatos entrada) := by omega
        rw [weight_lineaDatos, sum_coste_linea] at lineFits
        have nameWeight : 0 < weight entrada.1 :=
          Nat.lt_of_lt_of_le (List.length_pos_iff.mpr word.1) (length_le_weight word.2)
        have atMostOne : entrada.2.length * weight entrada.1 ≤ 1 * weight entrada.1 := by omega
        exact Nat.le_antisymm (Nat.le_of_mul_le_mul_right atMostOne nameWeight)
          (List.length_pos_iff.mpr someAddress)
      · apply ih otherWords otherNonempty
        omega

/-! ## The round trip -/

/-- A table without empty lists is read back exactly when each of its files has
one address. -/
theorem recuperar_textoDatos_iff {tabla : Tabla} (nonempty : tabla.NonemptyLists)
    (words : ∀ entrada ∈ tabla.entries, Palabra entrada.1) :
    OrderedMap.empty.appendAll (registrosLeidos (textoDatos tabla)) = tabla ↔
      ∀ entrada ∈ tabla.entries, entrada.2.length = 1 := by
  constructor
  · intro same
    have records : (registrosLeidos (textoDatos tabla)).Perm tabla.pairs := by
      have grouped := OrderedMap.pairs_appendAll_perm OrderedMap.empty
        (registrosLeidos (textoDatos tabla))
      rw [same] at grouped
      exact grouped.symm
    have read := sum_coste_leerRegistros_le (textoDatos tabla).length (textoDatos tabla)
    have total : ((registrosLeidos (textoDatos tabla)).map coste).sum =
        (tabla.pairs.map coste).sum := (records.map coste).sum_nat
    apply length_eq_one_of_sum_coste_le words
    · rintro ⟨fichero, direcciones⟩ member rfl
      exact nonempty fichero ((tabla.find?_eq_some_iff fichero []).mpr member)
    · exact total ▸ read
  · intro single
    rw [registrosLeidos_textoDatos words single]
    exact nonempty.appendAll_pairs

/-- What `salvar_datos` writes to a path that works is read back by
`recuperar_datos` exactly when no file was registered more than once. -/
theorem salvar_recuperar_iff {solicitudes : List Bytes} {tabla : Tabla}
    (run : agregarTodos OrderedMap.empty solicitudes = some tabla)
    (words : ∀ entrada ∈ bitacora solicitudes, Palabra entrada.1)
    (previo : Option Bytes) (previa : Tabla) :
    (∃ archivo, salvarDatos .sana previo tabla = (true, some archivo) ∧
        recuperarDatos previa (some archivo) = (true, tabla)) ↔
      ∀ fichero, (registrosDe solicitudes fichero).length ≤ 1 := by
  have nonempty := nonemptyLists_of_agregarTodos OrderedMap.nonemptyLists_empty run
  have held : ∀ fichero, tabla.elements fichero = registrosDe solicitudes fichero := by
    intro fichero
    simpa using elements_of_agregarTodos run fichero
  have tableWords : ∀ entrada ∈ tabla.entries, Palabra entrada.1 := by
    rintro ⟨fichero, direcciones⟩ member
    have registered : registrosDe solicitudes fichero ≠ [] := by
      rw [← held, OrderedMap.elements_of_mem member]
      rintro rfl
      exact nonempty fichero ((tabla.find?_eq_some_iff fichero []).mpr member)
    obtain ⟨direccion, inGroup⟩ := List.exists_mem_of_ne_nil _ registered
    simp only [registrosDe, OrderedMap.grouped, List.mem_map, List.mem_filter,
      decide_eq_true_eq] at inGroup
    rcases inGroup with ⟨entrada, ⟨logged, rfl⟩, _⟩
    exact words entrada logged
  have atMostOne : (∀ fichero, (registrosDe solicitudes fichero).length ≤ 1) ↔
      ∀ fichero, (tabla.elements fichero).length ≤ 1 := by
    simp only [held]
  rw [atMostOne, ← nonempty.forall_length_eq_one_iff,
    ← recuperar_textoDatos_iff nonempty tableWords]
  simp [salvarDatos, recuperarDatos, Salida.sana, Salida.escrito]

theorem salvar_recuperar_dos_ficheros :
    ∃ tabla, agregarTodos OrderedMap.empty
        [ascii "a</>1.2.3.4</>80</>", ascii "b</>5.6.7.8</>81</>"] = some tabla ∧
      ∃ archivo, salvarDatos .sana none tabla = (true, some archivo) ∧
        recuperarDatos OrderedMap.empty (some archivo) = (true, tabla) := by
  have allStored : (agregarTodos OrderedMap.empty
      [ascii "a</>1.2.3.4</>80</>", ascii "b</>5.6.7.8</>81</>"]).isSome = true := by
    decide +kernel
  obtain ⟨tabla, run⟩ := Option.isSome_iff_exists.mp allStored
  have log : bitacora [ascii "a</>1.2.3.4</>80</>", ascii "b</>5.6.7.8</>81</>"] =
      [(ascii "a", (0x04030201, 0x5000)), (ascii "b", (0x08070605, 0x5100))] := by
    decide +kernel
  have words : ∀ entrada ∈ bitacora
      [ascii "a</>1.2.3.4</>80</>", ascii "b</>5.6.7.8</>81</>"], Palabra entrada.1 := by
    rw [log]
    simp [Palabra, ascii, isSpace]
  have once : ∀ fichero, (registrosDe
      [ascii "a</>1.2.3.4</>80</>", ascii "b</>5.6.7.8</>81</>"] fichero).length ≤ 1 := by
    intro fichero
    have different : ascii "a" ≠ ascii "b" := by decide
    rw [registrosDe, log, OrderedMap.grouped, List.length_map]
    by_cases isFirst : ascii "a" = fichero
    · have notSecond : ascii "b" ≠ fichero := isFirst ▸ different.symm
      simp [isFirst, notSecond]
    · by_cases isSecond : ascii "b" = fichero <;> simp [isFirst, isSecond]
  exact ⟨tabla, run, (salvar_recuperar_iff run words none OrderedMap.empty).mpr once⟩

/-- Two registrations of one file and one of another: only the first of the three
is read back. -/
theorem segunda_direccion_se_pierde :
    ∃ tabla restaurada archivo,
      (∀ entrada ∈ bitacora [ascii "a</>1.2.3.4</>80</>", ascii "a</>5.6.7.8</>81</>",
        ascii "b</>5.6.7.8</>82</>"], Palabra entrada.1) ∧
      agregarTodos OrderedMap.empty [ascii "a</>1.2.3.4</>80</>", ascii "a</>5.6.7.8</>81</>",
        ascii "b</>5.6.7.8</>82</>"] = some tabla ∧
      salvarDatos .sana none tabla = (true, some archivo) ∧
      recuperarDatos OrderedMap.empty (some archivo) = (true, restaurada) ∧
      restaurada ≠ tabla ∧
      obtenerCliente restaurada (ascii "b") = some (false, ascii "EMPTY") := by
  have log : bitacora [ascii "a</>1.2.3.4</>80</>", ascii "a</>5.6.7.8</>81</>",
      ascii "b</>5.6.7.8</>82</>"] =
      [(ascii "a", (0x04030201, 0x5000)), (ascii "a", (0x08070605, 0x5100)),
        (ascii "b", (0x08070605, 0x5200))] := by
    decide +kernel
  refine ⟨⟨[(ascii "a", [(0x04030201, 0x5000), (0x08070605, 0x5100)]),
      (ascii "b", [(0x08070605, 0x5200)])], by decide⟩,
    ⟨[(ascii "a", [(0x04030201, 0x5000)])], by decide⟩,
    ascii "a 67305985 20480 134678021 20736 \nb 134678021 20992 \n", ?_,
    by decide +kernel, by decide +kernel, by decide +kernel, by decide +kernel,
    by decide +kernel⟩
  rw [log]
  simp [Palabra, ascii, isSpace]

end DescargaP2P.Almacen
