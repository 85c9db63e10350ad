import DescargaP2P.Almacen.Core

/-!
# The grammar of requests

`agregar_cliente` documents one format of request and false for anything else.
What it looks at are the first three fields: it stores whatever `std::stoi` reads
from the third one, and `inet_addr` makes of any second field some address.
-/

namespace DescargaP2P.Almacen

open DescargaP2P.Collections
open DescargaP2P.Cpp
open DescargaP2P.Text

/-! ## Texts without a separator -/

theorem delimiter_ne_nil : delimiter ≠ [] := List.cons_ne_nil _ _

theorem delimiter_unbordered : Unbordered delimiter := by decide

/-- A text without the byte `<` does not contain the separator. -/
theorem not_delimiter_infix {text : Bytes} (noOpening : ∀ byte ∈ text, byte ≠ 60) :
    ¬ delimiter <:+: text :=
  fun inside => noOpening 60 (inside.subset (by decide)) rfl

theorem ne_of_isDigit {byte other : UInt8} (digit : isDigit byte = true)
    (outside : isDigit other = false) : byte ≠ other := by
  rintro rfl
  rw [digit] at outside
  contradiction

theorem digits_clean {digits : Bytes} (areDigits : ∀ digit ∈ digits, isDigit digit = true) :
    ¬ delimiter <:+: digits :=
  not_delimiter_infix fun digit member => ne_of_isDigit (areDigits digit member) rfl

theorem decimal_clean (n : Nat) : ¬ delimiter <:+: decimal n :=
  digits_clean fun _ member => isDigit_of_mem_decimal member

/-- A dotted quad has only digits and dots. -/
theorem ne_of_mem_dottedQuad {a b c d : UInt8} {byte other : UInt8}
    (member : byte ∈ dottedQuad a b c d) (notDigit : isDigit other = false)
    (notDot : other ≠ 46) : byte ≠ other := by
  have dot : ascii "." = [46] := by decide
  simp only [dottedQuad, dot, List.mem_append, List.mem_singleton] at member
  rcases member with (digit | rfl) | (digit | rfl) | (digit | rfl) | digit
  all_goals
    first
    | exact ne_of_isDigit (isDigit_of_mem_decimal digit) notDigit
    | exact notDot.symm

theorem dottedQuad_clean (a b c d : UInt8) : ¬ delimiter <:+: dottedQuad a b c d :=
  not_delimiter_infix fun _ member => ne_of_mem_dottedQuad member (by decide) (by decide)

/-! ## The splitter -/

/-- The loop of the splitter ends within one iteration for each byte of the text.  Its
tokens and the text it leaves have no separator and are the text when joined again;
and it splits the join of any tokens without a separator into these tokens. -/
theorem separador_invierte_la_union :
    (∀ s : Bytes,
      (∀ fuel, s.length ≤ fuel → splitLoop delimiter fuel s = split delimiter s) ∧
      joined delimiter (split delimiter s).1 ++ (split delimiter s).2 = s ∧
      (∀ token ∈ (split delimiter s).1, ¬ delimiter <:+: token) ∧
      ¬ delimiter <:+: (split delimiter s).2) ∧
    ∀ tokens : List Bytes, (∀ token ∈ tokens, ¬ delimiter <:+: token) →
      split delimiter (joined delimiter tokens) = (tokens, []) := by
  constructor
  · intro s
    obtain ⟨tokensClean, restClean⟩ := split_clean delimiter_ne_nil s
    exact ⟨fun _ enough => splitLoop_eq_split delimiter_ne_nil enough,
      joined_split delimiter_ne_nil s, tokensClean, restClean⟩
  · intro tokens clean
    exact split_joined delimiter_ne_nil delimiter_unbordered clean

example : split delimiter (joined delimiter [ascii "a<", ascii "/>b</", []]) =
    ([ascii "a<", ascii "/>b</", []], []) := by decide

/-- The last field of a join: its token ends where the field ends, or at the first
separator that it holds. -/
theorem exists_token (text : Bytes) :
    ∃ token resto despues, text = token ++ resto ∧ (∀ byte ∈ resto.head?, byte = 60) ∧
      ¬ delimiter <:+: token ∧ text ++ delimiter = token ++ delimiter ++ despues := by
  cases found : findSub delimiter text with
  | none =>
      have absent := findSub_eq_none_iff.mp found
      exact ⟨text, [], [], by simp, by simp, absent, by simp⟩
  | some pos =>
      obtain ⟨cut, noEarlier⟩ := findSub_eq_some_cut found
      have opening : ∀ byte ∈ (delimiter ++ text.drop (pos + delimiter.length)).head?,
          byte = 60 := by
        rintro byte ⟨⟩
        rfl
      refine ⟨text.take pos, delimiter ++ text.drop (pos + delimiter.length),
        text.drop (pos + delimiter.length) ++ delimiter, ?_, opening, ?_, ?_⟩
      · rw [← List.append_assoc]
        exact cut
      · intro inside
        exact noEarlier ⟨delimiter_ne_nil, inside⟩
      · rw [← List.append_assoc, ← cut]

/-! ## The first three fields -/

/-- A request starts with three fields, each with its separator. -/
structure Campos (s fichero ip puerto : Bytes) : Prop where
  corte : ∃ resto,
    s = fichero ++ delimiter ++ (ip ++ delimiter ++ (puerto ++ delimiter ++ resto))
  ficheroLimpio : ¬ delimiter <:+: fichero
  ipLimpia : ¬ delimiter <:+: ip
  puertoLimpio : ¬ delimiter <:+: puerto

/-- The fields are the first three tokens of the splitter. -/
theorem campos_iff {s fichero ip puerto : Bytes} :
    Campos s fichero ip puerto ↔
      ∃ resto, (split delimiter s).1 = fichero :: ip :: puerto :: resto := by
  simp only [split_fst_eq_cons_iff delimiter_ne_nil delimiter_unbordered]
  constructor
  · rintro ⟨⟨resto, rfl⟩, first, second, third⟩
    exact ⟨_, _, rfl, first, _, rfl, second, resto, rfl, third, rfl⟩
  · rintro ⟨_, _, rfl, first, _, rfl, second, resto, rfl, third, _⟩
    exact ⟨⟨resto, rfl⟩, first, second, third⟩

/-- The splitter reads the third field as the port. -/
theorem Campos.separarString_eq {s fichero ip puerto : Bytes}
    (fields : Campos s fichero ip puerto) :
    separarString s =
      match stoi puerto with
      | .error causa => .error (.excepcion causa)
      | .ok numero => .ok (fichero, inetAddr ip, htons (narrow16 numero)) := by
  obtain ⟨resto, tokens⟩ := campos_iff.mp fields
  cases read : stoi puerto <;> simp only [separarString, tokens, read]

/-- With fewer than three separators a token is read out of bounds. -/
theorem separarString_eq_indefinido {s : Bytes}
    (short : ¬ ∃ fichero ip puerto, Campos s fichero ip puerto) :
    separarString s = .error .indefinido := by
  simp only [campos_iff] at short
  rw [separarString]
  split
  · rename_i fichero ip puerto resto tokens
    exact absurd ⟨fichero, ip, puerto, resto, tokens⟩ short
  · rfl

/-- A port that `std::stoi` refuses leaves the table as it was. -/
theorem Campos.agregarCliente_of_error {s fichero ip puerto : Bytes} {causa : Exception}
    (fields : Campos s fichero ip puerto) (refused : stoi puerto = .error causa)
    (tabla : Tabla) : agregarCliente tabla s = some (false, tabla) := by
  simp only [agregarCliente, fields.separarString_eq, refused]

/-- Any other port is stored, with whatever `inet_addr` makes of the second field. -/
theorem Campos.agregarCliente_of_ok {s fichero ip puerto : Bytes} {numero : Int}
    (fields : Campos s fichero ip puerto) (read : stoi puerto = .ok numero) (tabla : Tabla) :
    agregarCliente tabla s =
      some (true, tabla.append fichero (inetAddr ip, htons (narrow16 numero))) := by
  have accepted : registro s = some (fichero, (inetAddr ip, htons (narrow16 numero))) := by
    simp only [registro, fields.separarString_eq, read]
  exact agregarCliente_of_registro tabla accepted

/-- A request that is accepted stores the number of its third field. -/
theorem Campos.exists_of_accepted {s fichero ip puerto : Bytes} (fields : Campos s fichero ip puerto)
    {tabla siguiente : Tabla} (accepted : agregarCliente tabla s = some (true, siguiente)) :
    ∃ numero, stoi puerto = .ok numero ∧
      siguiente = tabla.append fichero (inetAddr ip, htons (narrow16 numero)) := by
  cases read : stoi puerto with
  | error causa =>
      rw [fields.agregarCliente_of_error read] at accepted
      cases accepted
  | ok numero =>
      rw [fields.agregarCliente_of_ok read] at accepted
      exact ⟨numero, rfl, (Prod.mk.inj (Option.some.inj accepted)).2.symm⟩

theorem agregarCliente_eq_none {s : Bytes}
    (short : ¬ ∃ fichero ip puerto, Campos s fichero ip puerto) (tabla : Tabla) :
    agregarCliente tabla s = none := by
  simp only [agregarCliente, separarString_eq_indefinido short]

/-! ## The documented format -/

/-- `name</>ip</>port</>`, with a dotted quad and a decimal port. -/
structure Formato (s fichero : Bytes) (a b c d : UInt8) (puerto : UInt16) : Prop where
  noVacio : fichero ≠ []
  limpio : ¬ delimiter <:+: fichero
  corte : ∃ cifras, cifras ≠ [] ∧ (∀ cifra ∈ cifras, isDigit cifra = true) ∧
    numValue cifras = puerto.toNat ∧
    s = fichero ++ delimiter ++ (dottedQuad a b c d ++ delimiter ++ (cifras ++ delimiter))

/-- Some request in the documented format. -/
def ConFormato (s : Bytes) : Prop :=
  ∃ fichero a b c d puerto, Formato s fichero a b c d puerto

/-- The fields of a request in the format. -/
theorem Formato.campos {s fichero : Bytes} {a b c d : UInt8} {puerto : UInt16}
    (format : Formato s fichero a b c d puerto) :
    ∃ cifras, Campos s fichero (dottedQuad a b c d) cifras ∧
      stoi cifras = .ok (puerto.toNat : Int) := by
  obtain ⟨cifras, nonempty, areDigits, value, cut⟩ := format.corte
  have small : numValue cifras < 2 ^ 31 := by
    rw [value]
    exact Nat.lt_trans puerto.toNat_lt (by decide)
  refine ⟨cifras, ⟨⟨[], ?_⟩, format.limpio, dottedQuad_clean a b c d, digits_clean areDigits⟩, ?_⟩
  · rwa [List.append_nil]
  · rw [stoi_of_digits nonempty areDigits small, value]

/-- A request in the format is stored with the word of its dotted quad and its port. -/
theorem Formato.agregarCliente_eq {s fichero : Bytes} {a b c d : UInt8} {puerto : UInt16}
    (format : Formato s fichero a b c d puerto) (tabla : Tabla) :
    agregarCliente tabla s =
      some (true, tabla.append fichero (inetAddr (dottedQuad a b c d), htons puerto)) := by
  obtain ⟨cifras, fields, read⟩ := format.campos
  rw [fields.agregarCliente_of_ok read, narrow16_natCast]

/-- `agregar_cliente` accepts what is documented and nothing else: it returns true on
the format only, then with the address written there, and otherwise false without a
change. -/
def AceptaElFormato (tabla : Tabla) (s : Bytes) : Prop :=
  ((∃ siguiente, agregarCliente tabla s = some (true, siguiente)) ↔ ConFormato s) ∧
  (∀ siguiente fichero a b c d puerto, agregarCliente tabla s = some (true, siguiente) →
    Formato s fichero a b c d puerto →
    ∃ direccion : ParIpPuerto, siguiente = tabla.append fichero direccion ∧
      inetNtoa direccion.1 = dottedQuad a b c d ∧ ntohs direccion.2 = puerto) ∧
  (¬ ConFormato s → agregarCliente tabla s = some (false, tabla))

/-- Requests outside the format are refused exactly when they have three fields and
`std::stoi` refuses the third. -/
theorem acepta_el_formato_iff (tabla : Tabla) (s : Bytes) :
    AceptaElFormato tabla s ↔
      ConFormato s ∨ ∃ fichero ip puerto causa,
        Campos s fichero ip puerto ∧ stoi puerto = .error causa := by
  constructor
  · rintro ⟨_, _, refuses⟩
    by_cases format : ConFormato s
    · exact Or.inl format
    · have refused := refuses format
      by_cases three : ∃ fichero ip puerto, Campos s fichero ip puerto
      · obtain ⟨fichero, ip, puerto, fields⟩ := three
        cases read : stoi puerto with
        | error causa => exact Or.inr ⟨fichero, ip, puerto, causa, fields, read⟩
        | ok numero =>
            rw [fields.agregarCliente_of_ok read] at refused
            cases refused
      · rw [agregarCliente_eq_none three] at refused
        cases refused
  · rintro (⟨fichero, a, b, c, d, puerto, format⟩ | ⟨fichero, ip, puerto, causa, fields, refused⟩)
    · have stored := format.agregarCliente_eq tabla
      refine ⟨⟨fun _ => ⟨fichero, a, b, c, d, puerto, format⟩, fun _ => ⟨_, stored⟩⟩, ?_, ?_⟩
      · intro siguiente fichero' a' b' c' d' puerto' grown format'
        rw [format'.agregarCliente_eq tabla] at grown
        cases grown
        exact ⟨_, rfl, inetNtoa_inetAddr a' b' c' d', ntohs_htons puerto'⟩
      · intro outside
        exact absurd ⟨fichero, a, b, c, d, puerto, format⟩ outside
    · have rejected := fields.agregarCliente_of_error refused tabla
      have notStored : ∀ siguiente, agregarCliente tabla s ≠ some (true, siguiente) := by
        intro siguiente stored
        rw [rejected] at stored
        cases stored
      refine ⟨⟨?_, ?_⟩, ?_, fun _ => rejected⟩
      · rintro ⟨siguiente, stored⟩
        exact absurd stored (notStored siguiente)
      · rintro ⟨fichero, a, b, c, d, puerto, format⟩
        exact absurd (format.agregarCliente_eq tabla) (notStored _)
      · intro siguiente _ _ _ _ _ _ stored
        exact absurd stored (notStored siguiente)

/-- A second field that is no address is stored as 255.255.255.255. -/
theorem direccion_ilegible_se_acepta :
    agregarCliente OrderedMap.empty (ascii "f</>casa</>80</>") =
        some (true, OrderedMap.empty.append (ascii "f") (INADDR_NONE, 0x5000)) ∧
      ¬ AceptaElFormato OrderedMap.empty (ascii "f</>casa</>80</>") := by
  have stored : agregarCliente OrderedMap.empty (ascii "f</>casa</>80</>") =
      some (true, OrderedMap.empty.append (ascii "f") (INADDR_NONE, 0x5000)) := by
    decide +kernel
  refine ⟨stored, ?_⟩
  rintro ⟨accepts, _⟩
  obtain ⟨fichero, a, b, c, d, puerto, format⟩ := accepts.mp ⟨_, stored⟩
  obtain ⟨cifras, fields, _⟩ := format.campos
  obtain ⟨resto, tokens⟩ := campos_iff.mp fields
  have split : (split delimiter (ascii "f</>casa</>80</>")).1 =
      [ascii "f", ascii "casa", ascii "80"] := by decide +kernel
  rw [split] at tokens
  have quad : ascii "casa" = dottedQuad a b c d := (List.cons_eq_cons.mp
    (List.cons_eq_cons.mp tokens).2).1
  have letter : (99 : UInt8) ∈ dottedQuad a b c d := by
    rw [← quad]
    decide
  exact ne_of_mem_dottedQuad letter rfl (by decide) rfl

end DescargaP2P.Almacen
