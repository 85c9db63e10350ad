import DescargaP2P.Cpp.Strings
import Mathlib.Tactic.IntervalCases

/-!
# The address of a download

`hebra_cliente_ficheros` cuts the reply of the server at its first `//` and at
the first colon after it.
-/

namespace DescargaP2P.Cliente

open DescargaP2P.Cpp
open DescargaP2P.Text

/-- The first lines of `hebra_cliente_ficheros`: the host and the port handed to
`do_connect`.  The number read by `std::stoi` is not used, but an exception of it
ends the thread. -/
def analizaDireccion (dirCliente : Bytes) : Except Exception (Bytes × Bytes) :=
  let doubleSlashPos := find dirCliente (ascii "//") 0
  let colonPos := find dirCliente (ascii ":") doubleSlashPos
  match substr dirCliente (sizeAdd doubleSlashPos 2)
      (sizeSub (sizeSub colonPos doubleSlashPos) 2) with
  | .error cause => .error cause
  | .ok ip =>
      match substr dirCliente (sizeAdd colonPos 1) npos with
      | .error cause => .error cause
      | .ok portStr =>
          match stoi portStr with
          | .error cause => .error cause
          | .ok _ => .ok (ip, portStr)

/-- The first `//` of an address text is the one of `tcp://`. -/
theorem findSub_slashes (rest : Bytes) :
    findSub (ascii "//") (ascii "tcp://" ++ rest) = some 4 := by
  have first : (ascii "tcp://" ++ rest).dropInfix? (ascii "//") =
      some (ascii "tcp:", rest) := by
    apply dropInfix?_eq_some.mpr
    constructor
    · rfl
    · intro earlier later cut
      by_contra shorter
      have bound : earlier.length < 4 := Nat.not_le.mp shorter
      have slash : (ascii "tcp://" ++ rest)[earlier.length]? = some 47 := by
        rw [cut, List.append_assoc, List.getElem?_append_right (Nat.le_refl _), Nat.sub_self]
        rfl
      interval_cases earlier.length <;> simp [ascii] at slash
  rw [findSub, first]
  rfl

/-- The host of an address text is what stands before its first colon and the
port is what follows. -/
theorem analizaDireccion_texto {ip portStr : Bytes} {value : Int}
    (noColon : ¬ ascii ":" <:+: ip) (read : stoi portStr = .ok value)
    (small : ip.length + portStr.length < 2 ^ 32) :
    analizaDireccion (ascii "tcp://" ++ ip ++ ascii ":" ++ portStr) = .ok (ip, portStr) := by
  have slashesAt : find (ascii "tcp://" ++ ip ++ ascii ":" ++ portStr) (ascii "//") 0 = 4 := by
    rw [List.append_assoc, List.append_assoc]
    exact find_eq_of_findSub (Nat.zero_le _) (findSub_slashes _)
  have noColonSlashes : ¬ ascii ":" <:+: ascii "//" ++ ip := by
    intro colon
    have member : (58 : UInt8) ∈ ascii "//" ++ ip := colon.subset (by simp [ascii])
    have inside : (58 : UInt8) ∈ ip := by simpa [ascii] using member
    obtain ⟨before, after, cut⟩ := List.append_of_mem inside
    exact noColon ⟨before, after, by simp [cut, ascii]⟩
  have colonAt : find (ascii "tcp://" ++ ip ++ ascii ":" ++ portStr) (ascii ":") 4 =
      4 + (ascii "//" ++ ip).length := by
    apply find_eq_of_findSub
    · simp [ascii]
    · exact findSub_append (by decide) noColonSlashes portStr
  have host : substr (ascii "tcp://" ++ ip ++ ascii ":" ++ portStr) 6 ip.length = .ok ip := by
    simp [substr, ascii]
  have port : substr (ascii "tcp://" ++ ip ++ ascii ":" ++ portStr) (7 + ip.length) npos =
      .ok portStr := by
    have whole : (ascii "tcp://" ++ ip ++ ascii ":" ++ portStr).drop (7 + ip.length) =
        portStr := by
      apply List.drop_left'
      simp [ascii]
      omega
    have inside : portStr.length ≤ npos := by
      unfold npos
      omega
    rw [substr, whole, List.take_of_length_le inside, if_neg (by simp [ascii]; omega)]
  have colonEq : 4 + (ascii "//" ++ ip).length = 6 + ip.length := by
    simp [ascii]
    omega
  have hostLength : sizeSub (sizeSub (6 + ip.length) 4) 2 = ip.length := by
    have fromSlashes : sizeSub (6 + ip.length) 4 = 2 + ip.length := by
      rw [sizeSub_eq (by omega) (by omega)]
      omega
    rw [fromSlashes, sizeSub_eq (by omega) (by omega)]
    omega
  have portStart : sizeAdd (6 + ip.length) 1 = 7 + ip.length := by
    rw [sizeAdd_eq (by omega)]
    omega
  have hostStart : sizeAdd 4 2 = 6 := sizeAdd_eq (by decide)
  simp only [analizaDireccion, slashesAt, colonAt, colonEq, hostLength, portStart, hostStart,
    host, port, read]

end DescargaP2P.Cliente
