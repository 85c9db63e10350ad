import DescargaP2P.Servidor.Web
import Mathlib.Logic.Relation

/-!
# What a form means

A body is a sequence of segments separated by `&`.  The value of a key is the text
after the first `=` of the last segment with that key, and empty without one.  The
loop of `formatea_solicitud` computes these values, so the order of segments with
different keys and the segments with other keys do not matter.
-/

namespace DescargaP2P.Servidor

open DescargaP2P.Cpp
open DescargaP2P.Text

/-! ## Segments and values -/

/-- The texts between the `&` of a body. -/
def segmentos (body : Bytes) : List Bytes := body.splitOn 38

/-- The text before the first `=` of a segment, none without `=`. -/
def claveDe (segmento : Bytes) : Option Bytes :=
  if 61 ∈ segmento then some (segmento.takeWhile (· != 61)) else none

/-- The text after the first `=`. -/
def valorDe (segmento : Bytes) : Bytes := (segmento.dropWhile (· != 61)).tail

/-- The segments with a key. -/
def conClave (clave : Bytes) (partes : List Bytes) : List Bytes :=
  partes.filter fun segmento => claveDe segmento = some clave

/-- The value of a key: that of the last segment with it, empty if there is none. -/
def ultimoValor (clave : Bytes) (partes : List Bytes) : Bytes :=
  match (conClave clave partes).getLast? with
  | none => []
  | some segmento => valorDe segmento

/-- The keys that are read. -/
def clavesLeidas : List Bytes := [ascii "nombre_fichero", ascii "ip", ascii "puerto"]

/-! ## The loop computes the values -/

/-- The token of the loop is cut where the segment is. -/
theorem campoFormulario_eq (segmento : Bytes) :
    campoFormulario segmento = (claveDe segmento).map fun clave => (clave, valorDe segmento) := by
  have sign : ascii "=" = [61] := rfl
  by_cases inside : (61 : UInt8) ∈ segmento
  · obtain ⟨clave, valor, rfl, absent⟩ := List.eq_append_cons_of_mem inside
    have clean : ∀ byte ∈ clave, (byte != 61) = true := by
      intro byte member
      apply bne_iff_ne.mpr
      rintro rfl
      exact absent member
    have outside : ∀ byte ∈ (61 :: valor).head?, (byte != 61) = false := by
      rintro byte ⟨⟩
      rfl
    have notInfix : ¬ ascii "=" <:+: clave := fun inKey => absent (inKey.subset (by decide))
    have found := findSub_append (by decide : Unbordered (ascii "=")) notInfix valor
    rw [sign, List.append_assoc, List.singleton_append] at found
    rw [campoFormulario, sign, found, claveDe, if_pos inside, valorDe,
      takeWhile_append_of_run clean outside, dropWhile_append_of_run clean outside]
    simp
  · have notInfix : ¬ ascii "=" <:+: segmento := by
      rw [sign, List.singleton_infix_iff]
      exact inside
    rw [campoFormulario, findSub_eq_none_iff.mpr notInfix, claveDe, if_neg inside,
      Option.map_none]

/-- One segment overwrites the value of its key. -/
theorem guardaCampo_eq (datos : Bytes → Bytes) (segmento clave : Bytes) :
    guardaCampo datos segmento clave =
      if claveDe segmento = some clave then valorDe segmento else datos clave := by
  rw [guardaCampo, campoFormulario_eq]
  cases key : claveDe segmento with
  | none => simp
  | some found =>
      by_cases same : found = clave
      · subst same
        simp
      · simp [same, Ne.symm same]

/-- A segment without a key writes nothing. -/
theorem guardaCampo_nil (datos : Bytes → Bytes) : guardaCampo datos [] = datos := by
  funext clave
  have noKey : claveDe [] ≠ some clave := by simp [claveDe]
  rw [guardaCampo_eq, if_neg noKey]

/-- After the loop every key has the value of its last segment. -/
theorem foldl_guardaCampo (partes : List Bytes) (clave : Bytes) :
    partes.foldl guardaCampo (fun _ => []) clave = ultimoValor clave partes := by
  induction partes using List.reverseRecOn with
  | nil => rfl
  | append_singleton front last ih =>
      rw [List.foldl_append, List.foldl_cons, List.foldl_nil, guardaCampo_eq, ih]
      by_cases key : claveDe last = some clave
      · simp [ultimoValor, conClave, key]
      · simp [ultimoValor, conClave, key]

/-- The empty segment that `getline` does not read has no key. -/
theorem datosFormulario_eq (body clave : Bytes) :
    datosFormulario body clave = ultimoValor clave (segmentos body) := by
  rw [datosFormulario, ← foldl_guardaCampo, segmentos]
  rcases splitOn_eq_getlines 38 body with same | empty
  · rw [same]
  · rw [empty, List.foldl_append, List.foldl_cons, List.foldl_nil, guardaCampo_nil]

/-! ## Changes of a body that do not matter -/

/-- A segment without a key that is read. -/
def Ajeno (segmento : Bytes) : Prop := ∀ clave ∈ clavesLeidas, claveDe segmento ≠ some clave

/-- Two neighbours with different keys change places, or a foreign segment is taken out. -/
inductive Retoque : List Bytes → List Bytes → Prop
  | intercambia {front back : List Bytes} {primero segundo : Bytes} :
      claveDe primero ≠ claveDe segundo →
      Retoque (front ++ primero :: segundo :: back) (front ++ segundo :: primero :: back)
  | quita {front back : List Bytes} {segmento : Bytes} :
      Ajeno segmento → Retoque (front ++ segmento :: back) (front ++ back)

/-- Neither change moves a segment of a key that is read past another of that key. -/
theorem Retoque.conClave_eq {partes otras : List Bytes} (change : Retoque partes otras)
    {clave : Bytes} (read : clave ∈ clavesLeidas) :
    conClave clave partes = conClave clave otras := by
  cases change with
  | @intercambia front back primero segundo different =>
      by_cases key : claveDe primero = some clave
      · have other : claveDe segundo ≠ some clave := by
          rw [← key]
          exact different.symm
        simp [conClave, key, other]
      · simp [conClave, List.filter_cons, key]
  | quita foreign => simp [conClave, foreign clave read]

theorem conClave_eq_of_eqvGen {partes otras : List Bytes}
    (changes : Relation.EqvGen Retoque partes otras) {clave : Bytes}
    (read : clave ∈ clavesLeidas) : conClave clave partes = conClave clave otras := by
  induction changes with
  | rel _ _ change => exact change.conClave_eq read
  | refl _ => rfl
  | symm _ _ _ ih => exact ih.symm
  | trans _ _ _ _ _ first second => exact first.trans second

/-- The request depends on the segments with each key that is read, in their order. -/
theorem formateaSolicitud_congr {body otro : Bytes}
    (same : ∀ clave ∈ clavesLeidas,
      conClave clave (segmentos body) = conClave clave (segmentos otro)) :
    formateaSolicitud body = formateaSolicitud otro := by
  have values : ∀ clave ∈ clavesLeidas, datosFormulario body clave = datosFormulario otro clave := by
    intro clave read
    rw [datosFormulario_eq, datosFormulario_eq, ultimoValor, ultimoValor, same clave read]
  simp only [formateaSolicitud, values (ascii "nombre_fichero") (by decide),
    values (ascii "ip") (by decide), values (ascii "puerto") (by decide)]

/-- The request of a body joins the values of the three keys.  It is the same for bodies
whose segments with each of these keys are the same in the same order, so for those that
differ by exchanges of segments with different keys and by foreign segments put in or
taken out. -/
theorem formulario_sin_orden_ni_ajenos :
    (∀ body, formateaSolicitud body =
      ultimoValor (ascii "nombre_fichero") (segmentos body) ++ SEPARADOR ++
        ultimoValor (ascii "ip") (segmentos body) ++ SEPARADOR ++
        ultimoValor (ascii "puerto") (segmentos body) ++ SEPARADOR) ∧
    (∀ body otro, (∀ clave ∈ clavesLeidas,
        conClave clave (segmentos body) = conClave clave (segmentos otro)) →
      formateaSolicitud body = formateaSolicitud otro) ∧
    ∀ body otro, Relation.EqvGen Retoque (segmentos body) (segmentos otro) →
      formateaSolicitud body = formateaSolicitud otro := by
  refine ⟨?_, fun _ _ => formateaSolicitud_congr, ?_⟩
  · intro body
    simp only [formateaSolicitud, datosFormulario_eq]
  · intro body otro changes
    apply formateaSolicitud_congr
    exact fun clave read => conClave_eq_of_eqvGen changes read

example : formateaSolicitud (ascii "&ip=1&x&puerto=7=&ip=2&=9&nombre_fichero=a&") =
    ascii "a</>2</>7=</>" := by decide

end DescargaP2P.Servidor
