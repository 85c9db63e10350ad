import DescargaP2P.Almacen.Core
import DescargaP2P.Transition.Threads

/-!
# Registrations at the same time

The reply socket and the HTTP threads call `agregar_cliente` on one table without a
lock.  Each call of a map operation is atomic, but a call looks its name up and
inserts it in two steps.  `emplace` does nothing under a name that came in between,
and the call returns true all the same.
-/

namespace DescargaP2P.Almacen

open DescargaP2P.Collections
open DescargaP2P.Text
open DescargaP2P.Transition

/-! ## A call, one map operation after another -/

/-- A call of `agregar_cliente` between two map operations: before `find`, before the
insertion, and after its end. -/
inductive Llamada
  | empieza (s : Bytes)
  | buscada (s fichero : Bytes) (direccion : ParIpPuerto) (hallada : Bool)
  | devuelve (s : Bytes) (resultado : Bool)
  | indefinida (s : Bytes)
  deriving DecidableEq

/-- One map operation of a call.  `find` comes after the request has been split;
`push_back` or `emplace` follows, as `find` has decided. -/
def avanza (tabla : Tabla) : Llamada → Option (Tabla × Llamada)
  | .empieza s =>
      match separarString s with
      | .error .indefinido => some (tabla, .indefinida s)
      | .error (.excepcion _) => some (tabla, .devuelve s false)
      | .ok (fichero, ip, puerto) =>
          some (tabla, .buscada s fichero (ip, puerto) (tabla.find? fichero).isSome)
  | .buscada s fichero direccion true =>
      some (tabla.modify fichero (· ++ [direccion]), .devuelve s true)
  | .buscada s fichero direccion false =>
      some (tabla.emplace fichero [direccion], .devuelve s true)
  | .devuelve .. | .indefinida _ => none

/-- Calls in any interleaving. -/
abbrev Paso := ThreadStep avanza

/-- The result of a call that has ended. -/
def Llamada.resultado : Llamada → Option Bool
  | .devuelve _ resultado => some resultado
  | _ => none

/-- A call that nothing interrupts is `agregar_cliente`. -/
theorem agregarCliente_eq_avanza (tabla : Tabla) (s : Bytes) :
    agregarCliente tabla s =
      (avanza tabla (.empieza s)).bind fun (primera, llamada) =>
        match llamada.resultado with
        | some resultado => some (resultado, primera)
        | none => (avanza primera llamada).bind fun (segunda, ultima) =>
            ultima.resultado.map fun resultado => (resultado, segunda) := by
  cases parsed : separarString s with
  | error causa => cases causa <;> simp [agregarCliente, avanza, Llamada.resultado, parsed]
  | ok fields =>
      obtain ⟨fichero, ip, puerto⟩ := fields
      cases found : tabla.find? fichero with
      | none => simp [agregarCliente, avanza, Llamada.resultado, parsed, found]
      | some held => simp [agregarCliente, avanza, Llamada.resultado, parsed, found]

/-! ## What the calls leave -/

/-- The registration of a call that has returned true. -/
def registrada : Llamada → List (Bytes × ParIpPuerto)
  | .devuelve s true => (registro s).toList
  | _ => []

/-- The table holds what it held at first, and one address for each call that has
returned true. -/
def NadaPerdido (inicial : Tabla) (estado : Tabla × List Llamada) : Prop :=
  estado.1.pairs.Perm (inicial.pairs ++ doneBy registrada estado.2)

/-- Another call has inserted the name since this one did not find it. -/
def Adelantada (tabla : Tabla) : Llamada → Prop
  | .buscada _ fichero _ false => tabla.find? fichero ≠ none
  | _ => False

/-- The thread that takes a step has not been overtaken. -/
def SinAdelanto (estado : Tabla × List Llamada) (numero : Nat) : Prop :=
  ∀ llamada ∈ estado.2[numero]?, ¬ Adelantada estado.1 llamada

/-- A call between its two operations knows the registration of its request, and a
name it has found is still there. -/
def Coherente (tabla : Tabla) : Llamada → Prop
  | .buscada s fichero direccion hallada =>
      registro s = some (fichero, direccion) ∧ (hallada = true → tabla.find? fichero ≠ none)
  | _ => True

/-! ## One step -/

/-- A step before the insertion changes no table.  The insertion of a call that has
been overtaken does nothing, and any other insertion appends its address. -/
theorem avanza_cases {tabla siguiente : Tabla} {llamada proxima : Llamada}
    (coherent : Coherente tabla llamada)
    (taken : avanza tabla llamada = some (siguiente, proxima)) :
    (siguiente = tabla ∧ registrada llamada = [] ∧ registrada proxima = [] ∧
        ¬ Adelantada tabla llamada) ∨
      ∃ fichero direccion, registrada llamada = [] ∧
        registrada proxima = [(fichero, direccion)] ∧
        (¬ Adelantada tabla llamada → siguiente = tabla.append fichero direccion) ∧
        (Adelantada tabla llamada → siguiente = tabla) := by
  cases llamada with
  | empieza s =>
      left
      simp only [avanza] at taken
      cases parsed : separarString s with
      | error causa =>
          cases causa <;> simp only [parsed, Option.some.injEq, Prod.mk.injEq] at taken
          all_goals
            obtain ⟨rfl, rfl⟩ := taken
            exact ⟨rfl, rfl, rfl, id⟩
      | ok fields =>
          simp only [parsed, Option.some.injEq, Prod.mk.injEq] at taken
          obtain ⟨rfl, rfl⟩ := taken
          exact ⟨rfl, rfl, rfl, id⟩
  | buscada s fichero direccion hallada =>
      right
      obtain ⟨accepted, present⟩ := coherent
      have logged : registrada (.devuelve s true) = [(fichero, direccion)] := by
        simp only [registrada, accepted, Option.toList_some]
      refine ⟨fichero, direccion, rfl, ?_⟩
      cases hallada with
      | true =>
          cases taken
          obtain ⟨held, found⟩ := Option.ne_none_iff_exists'.mp (present rfl)
          exact ⟨logged, fun _ => OrderedMap.modify_eq_append found direccion, False.elim⟩
      | false =>
          cases taken
          refine ⟨logged, ?_, ?_⟩
          · intro absent
            exact OrderedMap.emplace_eq_append (not_not.mp absent) direccion
          · intro overtaken
            obtain ⟨held, found⟩ := Option.ne_none_iff_exists'.mp overtaken
            exact OrderedMap.emplace_of_found found [direccion]
  | devuelve s resultado => cases taken
  | indefinida s => cases taken

/-- No step removes a name. -/
theorem presente_avanza {tabla siguiente : Tabla} {llamada proxima : Llamada}
    (coherent : Coherente tabla llamada)
    (taken : avanza tabla llamada = some (siguiente, proxima)) {fichero : Bytes}
    (present : tabla.find? fichero ≠ none) : siguiente.find? fichero ≠ none := by
  rcases avanza_cases coherent taken with ⟨rfl, _⟩ | ⟨otro, direccion, _, _, appended, kept⟩
  · exact present
  · by_cases overtaken : Adelantada tabla llamada
    · rwa [kept overtaken]
    · rw [appended overtaken, OrderedMap.find?_append]
      split
      · exact Option.some_ne_none _
      · exact present

/-- The call that takes a step is coherent after it. -/
theorem coherente_avanza {tabla siguiente : Tabla} {llamada proxima : Llamada}
    (taken : avanza tabla llamada = some (siguiente, proxima)) : Coherente siguiente proxima := by
  cases llamada with
  | empieza s =>
      simp only [avanza] at taken
      cases parsed : separarString s with
      | error causa =>
          cases causa <;> simp only [parsed, Option.some.injEq, Prod.mk.injEq] at taken
          all_goals
            obtain ⟨rfl, rfl⟩ := taken
            trivial
      | ok fields =>
          obtain ⟨fichero, ip, puerto⟩ := fields
          simp only [parsed, Option.some.injEq, Prod.mk.injEq] at taken
          obtain ⟨rfl, rfl⟩ := taken
          refine ⟨by simp only [registro, parsed], ?_⟩
          intro found
          exact Option.isSome_iff_ne_none.mp found
  | buscada s fichero direccion hallada => cases hallada <;> cases taken <;> trivial
  | devuelve s resultado => cases taken
  | indefinida s => cases taken

theorem coherente_of_presente {tabla siguiente : Tabla} {llamada : Llamada}
    (kept : ∀ fichero, tabla.find? fichero ≠ none → siguiente.find? fichero ≠ none)
    (coherent : Coherente tabla llamada) : Coherente siguiente llamada := by
  cases llamada with
  | buscada s fichero direccion hallada =>
      exact ⟨coherent.1, fun found => kept fichero (coherent.2 found)⟩
  | _ => trivial

/-- All calls of a state are coherent. -/
def Coherentes (estado : Tabla × List Llamada) : Prop :=
  ∀ llamada ∈ estado.2, Coherente estado.1 llamada

theorem coherentes_paso {estado siguiente : Tabla × List Llamada} {numero : Nat}
    (coherent : Coherentes estado) (taken : Paso estado numero siguiente) :
    Coherentes siguiente := by
  obtain ⟨before, llamada, after, tabla, proxima, cut, _, acted, rfl⟩ := threadStep_cases taken
  have member : llamada ∈ estado.2 := by simp [cut]
  intro other inNext
  rcases List.mem_append.mp inNext with front | back
  · exact coherente_of_presente (fun _ => presente_avanza (coherent llamada member) acted)
      (coherent other (by simp [cut, front]))
  · rcases List.mem_cons.mp back with rfl | later
    · exact coherente_avanza acted
    · exact coherente_of_presente (fun _ => presente_avanza (coherent llamada member) acted)
        (coherent other (by simp [cut, later]))

/-- A step that is not overtaken puts into the table what it registers; any other
registers an address and leaves the table as it was. -/
theorem paso_cases {estado siguiente : Tabla × List Llamada} {numero : Nat}
    (coherent : Coherentes estado) (taken : Paso estado numero siguiente) :
    ∃ nuevas, (doneBy registrada siguiente.2).Perm (nuevas ++ doneBy registrada estado.2) ∧
      (SinAdelanto estado numero → siguiente.1.pairs.Perm (nuevas ++ estado.1.pairs)) ∧
      (¬ SinAdelanto estado numero → nuevas.length = 1 ∧ siguiente.1 = estado.1) := by
  obtain ⟨before, llamada, after, tabla, proxima, cut, found, acted, rfl⟩ :=
    threadStep_cases taken
  have member : llamada ∈ estado.2 := by simp [cut]
  have overtaken : SinAdelanto estado numero ↔ ¬ Adelantada estado.1 llamada := by
    simp [SinAdelanto, found]
  have doneBefore := doneBy_perm registrada before llamada after
  have doneAfter := doneBy_perm registrada before proxima after
  rw [← cut] at doneBefore
  rw [overtaken, not_not]
  rcases avanza_cases (coherent llamada member) acted with
    ⟨rfl, none, still, free⟩ | ⟨fichero, direccion, none, logged, appended, kept⟩
  · rw [none] at doneBefore
    rw [still] at doneAfter
    exact ⟨[], doneAfter.trans doneBefore.symm, fun _ => List.Perm.refl _, (absurd · free)⟩
  · rw [none] at doneBefore
    rw [logged] at doneAfter
    refine ⟨[(fichero, direccion)], doneAfter.trans (doneBefore.symm.append_left _), ?_, ?_⟩
    · intro free
      rw [appended free]
      exact OrderedMap.pairs_append_perm estado.1 fichero direccion
    · intro late
      exact ⟨rfl, kept late⟩

/-! ## Whole runs -/

/-- Without an overtaken insertion nothing is lost. -/
theorem nadaPerdido_of_run {inicial : Tabla} {start final : Tabla × List Llamada}
    {order : List Nat} (coherent : Coherentes start) (balanced : NadaPerdido inicial start)
    (run : Run Paso SinAdelanto start order final) : NadaPerdido inicial final := by
  have invariant : Coherentes final ∧ NadaPerdido inicial final := by
    apply run.invariant (fun estado => Coherentes estado ∧ NadaPerdido inicial estado)
      ⟨coherent, balanced⟩
    rintro source numero next ⟨held, saved⟩ free taken
    refine ⟨coherentes_paso held taken, ?_⟩
    obtain ⟨nuevas, done, stored, _⟩ := paso_cases held taken
    have rearranged : (nuevas ++ (inicial.pairs ++ doneBy registrada source.2)).Perm
        (inicial.pairs ++ (nuevas ++ doneBy registrada source.2)) := by
      rw [← List.append_assoc, ← List.append_assoc]
      exact List.perm_append_comm.append_right _
    calc
      next.1.pairs.Perm (nuevas ++ source.1.pairs) := stored free
      List.Perm _ (nuevas ++ (inicial.pairs ++ doneBy registrada source.2)) :=
        saved.append_left nuevas
      List.Perm _ (inicial.pairs ++ (nuevas ++ doneBy registrada source.2)) := rearranged
      List.Perm _ (inicial.pairs ++ doneBy registrada next.2) := done.symm.append_left _
  exact invariant.2

/-- The table never holds more addresses than the calls have registered, and after an
overtaken insertion it holds fewer for good. -/
theorem run_or_perdido {start final : Tabla × List Llamada} {order : List Nat}
    (coherent : Coherentes start) (run : Run Paso (fun _ _ => True) start order final) :
    Coherentes final ∧
      final.1.pairs.length + (doneBy registrada start.2).length ≤
        start.1.pairs.length + (doneBy registrada final.2).length ∧
      (Run Paso SinAdelanto start order final ∨
        final.1.pairs.length + (doneBy registrada start.2).length <
          start.1.pairs.length + (doneBy registrada final.2).length) := by
  induction run with
  | refl => exact ⟨coherent, Nat.le_refl _, Or.inl Run.refl⟩
  | @tail order middle target numero _ _ last ih =>
      obtain ⟨held, atMost, before⟩ := ih
      obtain ⟨nuevas, done, stored, lost⟩ := paso_cases held last
      have doneLength := done.length_eq
      rw [List.length_append] at doneLength
      refine ⟨coherentes_paso held last, ?_⟩
      by_cases free : SinAdelanto middle numero
      · have storedLength := (stored free).length_eq
        rw [List.length_append] at storedLength
        refine ⟨by omega, ?_⟩
        rcases before with allowed | less
        · exact Or.inl (Run.tail allowed free last)
        · right
          omega
      · obtain ⟨one, same⟩ := lost free
        rw [same]
        constructor
        · omega
        · right
          omega

/-- Calls that have not looked anything up. -/
def comienzo (tabla : Tabla) (solicitudes : List Bytes) : Tabla × List Llamada :=
  (tabla, solicitudes.map .empieza)

theorem doneBy_comienzo (tabla : Tabla) (solicitudes : List Bytes) :
    doneBy registrada (comienzo tabla solicitudes).2 = [] := by
  simp [doneBy, comienzo, List.flatMap_map, registrada]

theorem coherentes_comienzo (tabla : Tabla) (solicitudes : List Bytes) :
    Coherentes (comienzo tabla solicitudes) := by
  intro llamada member
  obtain ⟨s, _, rfl⟩ := List.mem_map.mp member
  trivial

/-- Every call that has returned true has its address in the table, once for each call,
exactly when no insertion of the run was overtaken. -/
theorem nada_perdido_iff {tabla : Tabla} {solicitudes : List Bytes}
    {final : Tabla × List Llamada} {order : List Nat}
    (run : Run Paso (fun _ _ => True) (comienzo tabla solicitudes) order final) :
    NadaPerdido tabla final ↔ Run Paso SinAdelanto (comienzo tabla solicitudes) order final := by
  have coherent := coherentes_comienzo tabla solicitudes
  have nothing := doneBy_comienzo tabla solicitudes
  constructor
  · intro balanced
    have held := balanced.length_eq
    rw [List.length_append] at held
    rcases (run_or_perdido coherent run).2.2 with allowed | less
    · exact allowed
    · rw [nothing, List.length_nil] at less
      exact absurd held (Nat.ne_of_lt less)
  · intro allowed
    apply nadaPerdido_of_run coherent _ allowed
    rw [NadaPerdido, nothing, List.append_nil]
    exact List.Perm.refl _

/-- Two first registrations of one name, one after the other. -/
theorem nada_perdido_en_serie :
    ∃ final, Run Paso SinAdelanto
        (comienzo OrderedMap.empty [ascii "f</>1.2.3.4</>80</>", ascii "f</>5.6.7.8</>81</>"])
        [0, 0, 1, 1] final ∧
      final.2.map Llamada.resultado = [some true, some true] := by
  have executed : (runThreads avanza [0, 0, 1, 1] (comienzo OrderedMap.empty
      [ascii "f</>1.2.3.4</>80</>", ascii "f</>5.6.7.8</>81</>"])).map
        (fun final => (final.1.pairs, final.2)) =
      some ([(ascii "f", (0x04030201, 0x5000)), (ascii "f", (0x08070605, 0x5100))],
        [.devuelve (ascii "f</>1.2.3.4</>80</>") true,
          .devuelve (ascii "f</>5.6.7.8</>81</>") true]) := by decide +kernel
  obtain ⟨final, reached, image⟩ := Option.map_eq_some_iff.mp executed
  obtain ⟨pairs, calls⟩ := Prod.mk.inj image
  have balanced : NadaPerdido OrderedMap.empty final := by
    rw [NadaPerdido, pairs, calls]
    exact List.Perm.of_eq (by decide +kernel)
  refine ⟨final, (nada_perdido_iff (run_of_runThreads reached)).mp balanced, ?_⟩
  rw [calls]
  rfl

/-- Two first registrations of one name that both look it up first: both calls return
true, and the second address is in no list. -/
theorem registro_adelantado_se_pierde :
    ∃ final, Run Paso (fun _ _ => True)
        (comienzo OrderedMap.empty [ascii "f</>1.2.3.4</>80</>", ascii "f</>5.6.7.8</>81</>"])
        [0, 1, 0, 1] final ∧
      final.2.map Llamada.resultado = [some true, some true] ∧
      final.1.pairs = [(ascii "f", (0x04030201, 0x5000))] ∧
      ¬ NadaPerdido OrderedMap.empty final := by
  have executed : (runThreads avanza [0, 1, 0, 1] (comienzo OrderedMap.empty
      [ascii "f</>1.2.3.4</>80</>", ascii "f</>5.6.7.8</>81</>"])).map
        (fun final => (final.1.pairs, final.2)) =
      some ([(ascii "f", (0x04030201, 0x5000))],
        [.devuelve (ascii "f</>1.2.3.4</>80</>") true,
          .devuelve (ascii "f</>5.6.7.8</>81</>") true]) := by decide +kernel
  obtain ⟨final, reached, image⟩ := Option.map_eq_some_iff.mp executed
  obtain ⟨pairs, calls⟩ := Prod.mk.inj image
  refine ⟨final, run_of_runThreads reached, ?_, pairs, ?_⟩
  · rw [calls]
    rfl
  · intro balanced
    have held := balanced.length_eq
    rw [pairs, calls] at held
    exact absurd held (by decide +kernel)

end DescargaP2P.Almacen
