import DescargaP2P.Almacen.Persistencia

/-!
# Loading the store

A backup is well formed if it is a sequence of records `name ip port` separated by
white space.  `recuperar_datos` has emptied the table before its first read and
returns true wherever its loop stops, so it is right on the well-formed texts only.

The texts that `salvar_datos` writes are well formed up to the first name with a
second address.
-/

namespace DescargaP2P.Almacen

open DescargaP2P.Collections
open DescargaP2P.Cpp
open DescargaP2P.Text

/-! ## Well-formed backups -/

/-- White space, as it may stand around the fields. -/
def Espacios (texto : Bytes) : Prop := ∀ byte ∈ texto, isSpace byte = true

/-- A decimal numeral whose value has the given number of bits. -/
def Numeral (ancho : Nat) (texto : Bytes) : Prop :=
  texto ≠ [] ∧ (∀ byte ∈ texto, isDigit byte = true) ∧ numValue texto < 2 ^ ancho

/-- The text of one record. -/
inductive TextoRegistro : Bytes → Bytes × ParIpPuerto → Prop
  | mk {nombre primero ip segundo puerto : Bytes} :
      Palabra nombre → Espacios primero → primero ≠ [] → Numeral 32 ip →
      Espacios segundo → segundo ≠ [] → Numeral 16 puerto →
      TextoRegistro (nombre ++ (primero ++ (ip ++ (segundo ++ puerto))))
        (nombre, (UInt32.ofNat (numValue ip), UInt16.ofNat (numValue puerto)))

/-- The text of a sequence of records. -/
inductive BienFormado : Bytes → List (Bytes × ParIpPuerto) → Prop
  | fin {blanco : Bytes} : Espacios blanco → BienFormado blanco []
  | registro {blanco texto resto : Bytes} {entrada : Bytes × ParIpPuerto}
      {entradas : List (Bytes × ParIpPuerto)} :
      Espacios blanco → TextoRegistro texto entrada →
      (∀ byte ∈ resto.head?, isSpace byte = true) → BienFormado resto entradas →
      BienFormado (blanco ++ (texto ++ resto)) (entrada :: entradas)

theorem extractUnsigned_numeral {ancho : Nat} {texto : Bytes} (numeral : Numeral ancho texto)
    {espacios : Bytes} (blanco : Espacios espacios) {resto : Bytes}
    (ends : ∀ byte ∈ resto.head?, isSpace byte = true) :
    extractUnsigned ancho (espacios ++ (texto ++ resto)) = some (numValue texto, resto) := by
  have notDigit : ∀ byte ∈ resto.head?, isDigit byte = false := by
    intro byte member
    rw [← Bool.not_eq_true]
    intro digit
    have notSpace := isSpace_of_isDigit digit
    rw [ends byte member] at notSpace
    contradiction
  rw [extractUnsigned_spaces_append blanco,
    extractUnsigned_digits numeral.1 numeral.2.1 notDigit, if_pos numeral.2.2]

theorem head?_espacios {espacios : Bytes} (blanco : Espacios espacios)
    (nonempty : espacios ≠ []) (resto : Bytes) :
    ∀ byte ∈ (espacios ++ resto).head?, isSpace byte = true := by
  rw [List.head?_append_of_ne_nil _ nonempty]
  exact fun byte member => blanco byte (List.mem_of_mem_head? member)

/-- A record is read whole. -/
theorem leerRegistro_of_textoRegistro {blanco texto resto : Bytes}
    {entrada : Bytes × ParIpPuerto} (spaces : Espacios blanco)
    (record : TextoRegistro texto entrada)
    (ends : ∀ byte ∈ resto.head?, isSpace byte = true) :
    leerRegistro (blanco ++ (texto ++ resto)) = some (entrada, resto) := by
  rcases record with @⟨nombre, primero, ip, segundo, puerto, word, first, firstSome, ipNumeral,
    second, secondSome, portNumeral⟩
  have readName := extractWord_append word.1 word.2
    (head?_espacios first firstSome (ip ++ (segundo ++ (puerto ++ resto))))
  have readIp := extractUnsigned_numeral ipNumeral first
    (head?_espacios second secondSome (puerto ++ resto))
  have readPort := extractUnsigned_numeral portNumeral second ends
  simp only [List.append_assoc, leerRegistro, extractWord_spaces_append spaces]
  rw [readName]
  simp only [readIp, readPort]

theorem BienFormado.length_le {texto : Bytes} {entradas : List (Bytes × ParIpPuerto)}
    (formed : BienFormado texto entradas) : entradas.length ≤ texto.length := by
  induction formed with
  | fin spaces => exact Nat.zero_le _
  | registro spaces record ends rest ih =>
      rcases record with ⟨word, _⟩
      have nameLength := List.length_pos_iff.mpr word.1
      simp only [List.length_cons, List.length_append]
      omega

/-- The records of a well-formed text are read one by one. -/
theorem BienFormado.leerRegistros_eq {texto : Bytes} {entradas : List (Bytes × ParIpPuerto)}
    (formed : BienFormado texto entradas) {fuel : Nat} (enough : entradas.length ≤ fuel) :
    leerRegistros fuel texto = entradas := by
  induction formed generalizing fuel with
  | @fin blanco spaces =>
      cases fuel with
      | zero => rfl
      | succ fuel =>
          have nothing : extractWord blanco = none := by
            have skipped := extractWord_spaces_append spaces []
            rwa [List.append_nil] at skipped
          simp only [leerRegistros, leerRegistro, nothing]
  | registro spaces record ends rest ih =>
      cases fuel with
      | zero => contradiction
      | succ fuel =>
          have others := ih (Nat.le_of_succ_le_succ enough)
          simp only [leerRegistros, leerRegistro_of_textoRegistro spaces record ends, others]

/-- The grammar is unambiguous: the loop reads the records of the text. -/
theorem BienFormado.registrosLeidos_eq {texto : Bytes}
    {entradas : List (Bytes × ParIpPuerto)} (formed : BienFormado texto entradas) :
    registrosLeidos texto = entradas :=
  formed.leerRegistros_eq formed.length_le

theorem BienFormado.espacios {texto : Bytes} (formed : BienFormado texto []) : Espacios texto := by
  cases formed with
  | fin spaces => exact spaces

/-- Loading returns true only if it has read the whole text, and otherwise leaves the
table alone. -/
def CargaEntera (previa : Tabla) (texto : Bytes) : Prop :=
  ((recuperarDatos previa (some texto)).1 = true →
    ∃ entradas, BienFormado texto entradas ∧
      (recuperarDatos previa (some texto)).2 = OrderedMap.empty.appendAll entradas) ∧
  ((¬ ∃ entradas, BienFormado texto entradas) →
    recuperarDatos previa (some texto) = (false, previa))

/-- Loading is right exactly on the well-formed texts. -/
theorem carga_entera_iff (previa : Tabla) (texto : Bytes) :
    CargaEntera previa texto ↔ ∃ entradas, BienFormado texto entradas := by
  constructor
  · rintro ⟨whole, _⟩
    obtain ⟨entradas, formed, _⟩ := whole rfl
    exact ⟨entradas, formed⟩
  · rintro ⟨entradas, formed⟩
    constructor
    · intro _
      refine ⟨entradas, formed, ?_⟩
      rw [recuperarDatos, formed.registrosLeidos_eq]
    · intro malformed
      exact absurd ⟨entradas, formed⟩ malformed

/-- A text that ends within its first record empties the table, and the call returns
true. -/
theorem carga_truncada_vacia_la_tabla :
    ∃ previa : Tabla, previa.entries ≠ [] ∧
      recuperarDatos previa (some (ascii "f")) = (true, OrderedMap.empty) ∧
      ¬ CargaEntera previa (ascii "f") := by
  refine ⟨OrderedMap.empty.append (ascii "b") (67305985, 20480), by decide, by decide +kernel, ?_⟩
  rintro ⟨whole, _⟩
  obtain ⟨entradas, formed, _⟩ := whole rfl
  have none : entradas = [] := by
    rw [← formed.registrosLeidos_eq]
    decide +kernel
  rw [none] at formed
  exact absurd (formed.espacios 102 (by decide)) (by decide)

/-! ## What survives a restart -/

section Reinicio

variable {antes despues : List (Bytes × List ParIpPuerto)} {fichero : Bytes}
  {primera segunda : ParIpPuerto} {otras : List ParIpPuerto}

/-- The rest of a line after its first address, and the lines below. -/
def restoLinea (segunda : ParIpPuerto) (otras : List ParIpPuerto)
    (despues : List (Bytes × List ParIpPuerto)) : Bytes :=
  (segunda :: otras).flatMap campoDireccion ++ (ascii "\n" ++ despues.flatMap lineaDatos)

theorem lineas_eq_restoLinea :
    (antes ++ (fichero, primera :: segunda :: otras) :: despues).flatMap lineaDatos =
      antes.flatMap lineaDatos ++ (fichero ++ ascii " " ++
        (campoDireccion primera ++ restoLinea segunda otras despues)) := by
  simp [lineaDatos, restoLinea]

/-- The lines before the first name with a second address are read, and the first
address of that name. -/
theorem leerRegistros_hasta_repetido
    (words : ∀ entrada ∈ antes ++ (fichero, primera :: segunda :: otras) :: despues,
      Palabra entrada.1)
    (single : ∀ entrada ∈ antes, entrada.2.length = 1) (fuel : Nat) :
    leerRegistros (antes.length + (fuel + 1))
        ((antes ++ (fichero, primera :: segunda :: otras) :: despues).flatMap lineaDatos) =
      (antes.flatMap fun entrada => entrada.2.map (Prod.mk entrada.1)) ++
        (fichero, primera) :: leerRegistros fuel (restoLinea segunda otras despues) := by
  have earlier : ∀ entrada ∈ antes, Palabra entrada.1 := by
    intro entrada member
    exact words entrada (List.mem_append_left _ member)
  have repeated : Palabra fichero :=
    words (fichero, primera :: segunda :: otras) (List.mem_append_right _ List.mem_cons_self)
  rw [lineas_eq_restoLinea, leerRegistros_lineas earlier single, leerRegistros_linea repeated]

/-- A name that no number starts with. -/
def EmpiezaSinNumero (fichero : Bytes) : Prop :=
  ∀ byte ∈ fichero.head?, isDigit byte = false ∧ byte ≠ 43 ∧ byte ≠ 45

/-- After the second address the loop asks for a port, and finds the word of a third
address, a name, or the end. -/
theorem extractUnsigned_tras_segunda
    (words : ∀ entrada ∈ despues, Palabra entrada.1)
    (plain : ∀ entrada ∈ despues, EmpiezaSinNumero entrada.1)
    (large : ∀ direccion ∈ otras, 65535 < direccion.1.toNat) :
    extractUnsigned 16 (ascii " " ++ (otras.flatMap campoDireccion ++
      (ascii "\n" ++ despues.flatMap lineaDatos))) = none := by
  have blank : ∀ byte ∈ ascii " ", isSpace byte = true := List.all_eq_true.mp rfl
  have newline : ∀ byte ∈ ascii "\n", isSpace byte = true := List.all_eq_true.mp rfl
  rw [extractUnsigned_spaces_append blank]
  cases otras with
  | cons tercera mas =>
      have outOfRange : ¬ tercera.1.toNat < 2 ^ 16 :=
        Nat.not_lt.mpr (large tercera List.mem_cons_self)
      have ends : ∀ byte ∈ (ascii " " ++ (decimal tercera.2.toNat ++ (ascii " " ++
          (mas.flatMap campoDireccion ++ (ascii "\n" ++ despues.flatMap lineaDatos))))).head?,
          isDigit byte = false := by
        rintro byte ⟨⟩
        rfl
      have tooLarge := @extractUnsigned_digits 16 (decimal tercera.1.toNat) _ (decimal_ne_nil _)
        (fun _ member => isDigit_of_mem_decimal member) ends
      rw [numValue_decimal, if_neg outOfRange] at tooLarge
      simpa only [List.flatMap_cons, campoDireccion, List.append_assoc] using tooLarge
  | nil =>
      rw [List.flatMap_nil, List.nil_append, extractUnsigned_spaces_append newline]
      cases despues with
      | nil => rfl
      | cons entrada mas =>
          have word := words entrada List.mem_cons_self
          apply extractUnsigned_of_head
          intro byte member
          have inName : byte ∈ entrada.1.head? := by
            rwa [List.flatMap_cons, lineaDatos, List.append_assoc, List.append_assoc,
              List.head?_append_of_ne_nil _ word.1] at member
          exact ⟨word.2 byte (List.mem_of_mem_head? inName),
            plain entrada List.mem_cons_self byte inName⟩

/-- The second address is taken for a name and a number, and the loop ends. -/
theorem leerRegistro_restoLinea
    (words : ∀ entrada ∈ despues, Palabra entrada.1)
    (plain : ∀ entrada ∈ despues, EmpiezaSinNumero entrada.1)
    (large : ∀ direccion ∈ otras, 65535 < direccion.1.toNat) :
    leerRegistro (restoLinea segunda otras despues) = none := by
  have blank : ∀ byte ∈ ascii " ", isSpace byte = true := List.all_eq_true.mp rfl
  have someBlank : ascii " " ≠ [] := List.cons_ne_nil _ _
  have digitsNoSpace : ∀ byte ∈ decimal segunda.1.toNat, isSpace byte = false := by
    intro byte member
    exact isSpace_of_isDigit (isDigit_of_mem_decimal member)
  have small : segunda.2.toNat < 2 ^ 32 := by
    have port := segunda.2.toNat_lt
    omega
  have numeral : Numeral 32 (decimal segunda.2.toNat) := by
    refine ⟨decimal_ne_nil _, fun _ member => isDigit_of_mem_decimal member, ?_⟩
    rwa [numValue_decimal]
  have readName := extractWord_append (decimal_ne_nil segunda.1.toNat) digitsNoSpace
    (head?_espacios blank someBlank (decimal segunda.2.toNat ++ (ascii " " ++
      (otras.flatMap campoDireccion ++ (ascii "\n" ++ despues.flatMap lineaDatos)))))
  have readIp := extractUnsigned_numeral numeral blank
    (head?_espacios blank someBlank
      (otras.flatMap campoDireccion ++ (ascii "\n" ++ despues.flatMap lineaDatos)))
  have noPort := extractUnsigned_tras_segunda words plain large
  simp only [leerRegistro, restoLinea, List.flatMap_cons, campoDireccion, List.append_assoc]
  rw [readName]
  simp only [readIp, noPort]

end Reinicio

/-- What is read of a saved table up to the first list with two addresses. -/
theorem registrosLeidos_hasta_repetido {tabla : Tabla}
    (words : ∀ entrada ∈ tabla.entries, Palabra entrada.1)
    {antes despues : List (Bytes × List ParIpPuerto)} {fichero : Bytes}
    {primera segunda : ParIpPuerto} {otras : List ParIpPuerto}
    (cut : tabla.entries = antes ++ (fichero, primera :: segunda :: otras) :: despues)
    (single : ∀ entrada ∈ antes, entrada.2.length = 1) :
    ∃ fuel, registrosLeidos (textoDatos tabla) =
      antes.flatMap (fun entrada => entrada.2.map (Prod.mk entrada.1)) ++
        (fichero, primera) :: leerRegistros fuel (restoLinea segunda otras despues) := by
  have lineCount : antes.length + 1 ≤ (textoDatos tabla).length := by
    have lines := length_le_length_textoDatos tabla.entries
    rw [cut, List.length_append, List.length_cons, ← cut] at lines
    exact Nat.le_trans (by omega) lines
  obtain ⟨fuel, enough⟩ := Nat.exists_eq_add_of_le lineCount
  have upToRepeated := leerRegistros_hasta_repetido (cut ▸ words) single fuel
  rw [← cut] at upToRepeated
  refine ⟨fuel, ?_⟩
  rwa [registrosLeidos, enough, Nat.add_assoc, Nat.add_comm 1 fuel]

/-- Of a table that was saved, the files before the first one with a second address
come back, and the first address of that one.  Nothing else does, unless a later name
or a third address can pass for a port. -/
theorem sobrevive_al_reinicio {tabla : Tabla}
    (words : ∀ entrada ∈ tabla.entries, Palabra entrada.1)
    (nonempty : ∀ entrada ∈ tabla.entries, entrada.2 ≠ []) (previo : Option Bytes)
    (previa : Tabla) :
    ∃ texto, salvarDatos .sana previo tabla = (true, some texto) ∧
      ((∀ entrada ∈ tabla.entries, entrada.2.length = 1) →
        registrosLeidos texto = tabla.pairs ∧
          recuperarDatos previa (some texto) = (true, tabla)) ∧
      ∀ antes fichero primera segunda otras despues,
        tabla.entries = antes ++ (fichero, primera :: segunda :: otras) :: despues →
        (∀ entrada ∈ antes, entrada.2.length = 1) →
        (antes.flatMap (fun entrada => entrada.2.map (Prod.mk entrada.1)) ++
            [(fichero, primera)] <+: registrosLeidos texto) ∧
          ((∀ entrada ∈ tabla.entries, EmpiezaSinNumero entrada.1) →
            (∀ direccion ∈ otras, 65535 < direccion.1.toNat) →
            ∃ restaurada : Tabla, recuperarDatos previa (some texto) = (true, restaurada) ∧
              restaurada.entries = antes ++ [(fichero, [primera])]) := by
  have nonemptyLists : tabla.NonemptyLists := by
    intro fichero found
    exact nonempty (fichero, []) ((tabla.find?_eq_some_iff fichero []).mp found) rfl
  refine ⟨textoDatos tabla, rfl, ?_, ?_⟩
  · intro single
    have read := registrosLeidos_textoDatos words single
    refine ⟨read, ?_⟩
    rw [recuperarDatos, read, nonemptyLists.appendAll_pairs]
  · intro antes fichero primera segunda otras despues cut single
    obtain ⟨fuel, read⟩ := registrosLeidos_hasta_repetido words cut single
    constructor
    · rw [read]
      exact ⟨leerRegistros fuel (restoLinea segunda otras despues), by simp⟩
    · intro plain large
      have inTable : ∀ entrada ∈ despues, entrada ∈ tabla.entries := by
        intro entrada member
        rw [cut]
        exact List.mem_append_right _ (List.mem_cons_of_mem _ member)
      have stops : leerRegistro (restoLinea segunda otras despues) = none :=
        leerRegistro_restoLinea (fun entrada member => words entrada (inTable entrada member))
          (fun entrada member => plain entrada (inTable entrada member)) large
      have nothing : leerRegistros fuel (restoLinea segunda otras despues) = [] := by
        cases fuel with
        | zero => rfl
        | succ fuel => simp only [leerRegistros, stops]
      let restaurada : Tabla :=
        ⟨antes ++ [(fichero, [primera])], OrderedMap.sorted_of_cut (cut ▸ tabla.sorted) [primera]⟩
      have restoredNonempty : restaurada.NonemptyLists := by
        intro other found
        have held := (restaurada.find?_eq_some_iff other []).mp found
        rcases List.mem_append.mp held with earlier | last
        · have one := single (other, []) earlier
          contradiction
        · have equal := List.mem_singleton.mp last
          cases equal
      refine ⟨restaurada, ?_, rfl⟩
      have pairs : restaurada.pairs = registrosLeidos (textoDatos tabla) := by
        rw [read, nothing]
        simp [OrderedMap.pairs, restaurada]
      rw [recuperarDatos, ← pairs, restoredNonempty.appendAll_pairs]

theorem sobrevive_al_reinicio_hasta_el_repetido :
    ∃ tabla restaurada : Tabla, tabla.keys = [ascii "a", ascii "b", ascii "c"] ∧
      restaurada.entries = [(ascii "a", [(67305985, 20480)]), (ascii "b", [(67305985, 20736)])] ∧
      ∃ texto, salvarDatos .sana none tabla = (true, some texto) ∧
        recuperarDatos tabla (some texto) = (true, restaurada) := by
  let tabla : Tabla := ⟨[(ascii "a", [(67305985, 20480)]),
    (ascii "b", [(67305985, 20736), (134678021, 20992), (67305985, 21248)]),
    (ascii "c", [(67305985, 21504)])], by decide⟩
  have words : ∀ entrada ∈ tabla.entries, Palabra entrada.1 := by
    simp [tabla, Palabra, ascii, isSpace]
  have nonempty : ∀ entrada ∈ tabla.entries, entrada.2 ≠ [] := by simp [tabla]
  have plain : ∀ entrada ∈ tabla.entries, EmpiezaSinNumero entrada.1 := by
    simp [tabla, EmpiezaSinNumero, ascii, isDigit]
  obtain ⟨texto, saved, _, survives⟩ := sobrevive_al_reinicio words nonempty none tabla
  obtain ⟨restaurada, loaded, entries⟩ := (survives [(ascii "a", [(67305985, 20480)])] (ascii "b")
    (67305985, 20736) (134678021, 20992) [(67305985, 21248)]
    [(ascii "c", [(67305985, 21504)])] rfl (by simp)).2 plain (by simp)
  exact ⟨tabla, restaurada, rfl, entries, texto, saved, loaded⟩

end DescargaP2P.Almacen
