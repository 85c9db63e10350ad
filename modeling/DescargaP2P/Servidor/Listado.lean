import DescargaP2P.Almacen.Gramatica
import DescargaP2P.Servidor.Core

/-!
# The listing of option 0

The reply joins the names of the store with a space after each, and is the word
`EMPTY` for a store without names.  The last space tells the two apart, and splitting
at the spaces recovers the names that have none.
-/

namespace DescargaP2P.Servidor

open DescargaP2P.Almacen
open DescargaP2P.Text

/-- The space after each name. -/
def espacio : Bytes := ascii " "

theorem espacio_ne_nil : espacio ≠ [] := List.cons_ne_nil _ _

theorem espacio_unbordered : Unbordered espacio := by decide

/-- No name of the store has a space. -/
def SinEspacios (tabla : Tabla) : Prop := ∀ nombre ∈ tabla.keys, (32 : UInt8) ∉ nombre

/-- The word `EMPTY` stands for a store without names only. -/
theorem listado_eq_empty_iff (tabla : Tabla) :
    listado tabla = ascii "EMPTY" ↔ tabla.keys = [] := by
  rw [← obtenerFicheros_eq_nil_iff, listado]
  split
  · rename_i none
    exact iff_of_true rfl none
  · rename_i some
    exact iff_of_false (obtenerFicheros_ne_empty tabla) some

/-- A store with a name is listed as its names, each with a space. -/
theorem listado_of_keys {tabla : Tabla} (some : tabla.keys ≠ []) :
    listado tabla = joined espacio tabla.keys := by
  rw [listado, if_neg (mt (obtenerFicheros_eq_nil_iff tabla).mp some), obtenerFicheros_eq_keys]
  rfl

theorem not_espacio_infix {nombre : Bytes} (noSpace : (32 : UInt8) ∉ nombre) :
    ¬ espacio <:+: nombre := fun inside => noSpace (inside.subset (by decide))

/-- The texts that end at a space are the names of the store. -/
theorem split_listado {tabla : Tabla} (readable : SinEspacios tabla) :
    (split espacio (listado tabla)).1 = tabla.keys := by
  by_cases empty : tabla.keys = []
  · rw [(listado_eq_empty_iff tabla).mpr empty, empty, split_of_absent (by decide)]
  · have clean : ∀ nombre ∈ tabla.keys, ¬ espacio <:+: nombre :=
      fun nombre member => not_espacio_infix (readable nombre member)
    rw [listado_of_keys empty, split_joined espacio_ne_nil espacio_unbordered clean]

/-- The listing of a store with a name, split at every space, is its names and the empty
text behind the last space. -/
theorem splitOn_listado {tabla : Tabla} (readable : SinEspacios tabla)
    (some : tabla.keys ≠ []) : (listado tabla).splitOn 32 = tabla.keys ++ [[]] := by
  rw [listado_of_keys some]
  exact splitOn_joined readable

/-- The reply is `EMPTY` for the store without files and for no other; a reply without
spaces in its names splits into exactly these names, in strictly increasing order; and
equal replies list the same names. -/
theorem listado_sin_ambiguedad :
    (∀ tabla, listado tabla = ascii "EMPTY" ↔ tabla.entries = []) ∧
    (∀ tabla, SinEspacios tabla →
      (split espacio (listado tabla)).1 = tabla.keys ∧
      (tabla.entries ≠ [] → (listado tabla).splitOn 32 = tabla.keys ++ [[]]) ∧
      tabla.keys.Pairwise (· < ·) ∧ tabla.keys.Nodup) ∧
    ∀ tabla otra, SinEspacios tabla → SinEspacios otra → listado tabla = listado otra →
      ∀ nombre, nombre ∈ tabla.keys ↔ nombre ∈ otra.keys := by
  refine ⟨?_, ?_, ?_⟩
  · intro tabla
    rw [listado_eq_empty_iff]
    exact List.map_eq_nil_iff
  · intro tabla readable
    have sorted := tabla.keys_sorted
    refine ⟨split_listado readable, ?_, sorted, sorted.imp ne_of_lt⟩
    intro some
    exact splitOn_listado readable (mt List.map_eq_nil_iff.mp some)
  · intro tabla otra readable otherReadable same nombre
    have names := congrArg (fun text => (split espacio text).1) same
    simp only [split_listado readable, split_listado otherReadable] at names
    rw [names]

end DescargaP2P.Servidor
