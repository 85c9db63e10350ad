import DescargaP2P.Cliente.Core

/-!
# Operations and threads of a client

Whatever a client does stands in its script, also when it ends in the middle of it,
and its threads are those of the operations it has completed.
-/

namespace DescargaP2P.Cliente

open DescargaP2P.Cpp
open DescargaP2P.Text

/-- Every operation done, in course or left stands in the script. -/
structure DeGuion (guion : List Operacion) (cliente : Estado) : Prop where
  hechas : ∀ hecha ∈ cliente.respuestas, hecha.1 ∈ guion
  enCurso : ∀ operacion ∈ cliente.punto.enCurso, operacion ∈ guion
  restantes : ∀ operacion ∈ cliente.guion, operacion ∈ guion

/-- Every listener was started by an acknowledged upload, on the port read from its
text, and every download by a lookup, with the address in its reply. -/
structure Lanzadas (cliente : Estado) : Prop where
  servidoras : ∀ puerto nombre, (puerto, nombre) ∈ cliente.servidorasEscuchando →
    ∃ ip texto numero, (.subir nombre ip texto, ack) ∈ cliente.respuestas ∧
      stoi texto = .ok numero ∧ puerto = narrow16 numero
  descargas : ∀ nombre direccion, (nombre, direccion) ∈ cliente.descargas →
    direccion ≠ ascii "EMPTY" ∧ (.descargar nombre, direccion) ∈ cliente.respuestas

theorem enCurso_espera (operacion : Operacion) : operacion.espera.enCurso = [operacion] := by
  cases operacion <;> rfl

theorem DeGuion.enviada {guion : List Operacion} {cliente : Estado}
    (deGuion : DeGuion guion cliente) : DeGuion guion (enviada cliente) := by
  rcases cliente with ⟨punto, resto, respuestas, servidoras, descargas⟩
  obtain ⟨hechas, enCurso, restantes⟩ := deGuion
  cases punto with
  | menu =>
      rcases resto with _ | ⟨operacion, resto⟩
      · exact ⟨hechas, enCurso, restantes⟩
      · obtain ⟨first, others⟩ := List.forall_mem_cons.mp restantes
        refine ⟨hechas, ?_, others⟩
        simp only [Cliente.enviada, enCurso_espera]
        exact List.forall_mem_singleton.mpr first
  | _ => exact ⟨hechas, enCurso, restantes⟩

/-- A client that ends stops with what it has done. -/
theorem DeGuion.termina {guion : List Operacion} {cliente : Estado}
    (deGuion : DeGuion guion cliente) (causa : Termination) :
    DeGuion guion { cliente with punto := .terminado causa } :=
  ⟨deGuion.hechas, nofun, deGuion.restantes⟩

theorem DeGuion.siAck {guion : List Operacion} {cliente : Estado} {punto : Punto}
    (deGuion : DeGuion guion cliente) (same : punto.enCurso = cliente.punto.enCurso)
    (reply : Bytes) : DeGuion guion (siAck cliente reply punto) := by
  unfold Cliente.siAck
  split
  · exact ⟨deGuion.hechas, fun operacion member => deGuion.enCurso operacion (same ▸ member),
      deGuion.restantes⟩
  · exact deGuion.termina _

theorem DeGuion.completa {guion : List Operacion} {cliente : Estado} {operacion : Operacion}
    (deGuion : DeGuion guion cliente) (current : operacion ∈ cliente.punto.enCurso)
    (reply : Bytes) : DeGuion guion (completa cliente operacion reply) := by
  refine ⟨?_, nofun, deGuion.restantes⟩
  intro hecha member
  rcases List.mem_append.mp member with before | last
  · exact deGuion.hechas hecha before
  · rw [List.mem_singleton.mp last]
    exact deGuion.enCurso operacion current

theorem DeGuion.recibida {guion : List Operacion} {cliente : Estado}
    (deGuion : DeGuion guion cliente) (mensaje : Bytes) :
    DeGuion guion (recibida cliente mensaje) := by
  unfold Cliente.recibida
  cases point : cliente.punto with
  | recibeListado =>
      apply deGuion.completa
      rw [point]
      exact List.mem_cons_self
  | recibeAckSubida nombre ip puerto =>
      apply deGuion.siAck
      rw [point]
      rfl
  | recibeAckFinal nombre ip puerto =>
      have current : .subir nombre ip puerto ∈ cliente.punto.enCurso := by
        rw [point]
        exact List.mem_cons_self
      have completed := deGuion.completa current mensaje
      simp only
      split
      · unfold lanzaServidora
        split
        · exact completed.termina _
        · exact ⟨completed.hechas, completed.enCurso, completed.restantes⟩
      · exact deGuion.termina _
  | recibeAckConsulta nombre =>
      apply deGuion.siAck
      rw [point]
      rfl
  | recibeDireccion nombre =>
      have current : .descargar nombre ∈ cliente.punto.enCurso := by
        rw [point]
        exact List.mem_cons_self
      have completed := deGuion.completa current mensaje
      simp only [lanzaDescarga]
      split
      · exact completed
      · exact ⟨completed.hechas, completed.enCurso, completed.restantes⟩
  | _ => exact deGuion

/-- Threads stay started by the same replies when more replies are recorded. -/
theorem Lanzadas.mono {cliente siguiente : Estado} (lanzadas : Lanzadas cliente)
    (replies : cliente.respuestas ⊆ siguiente.respuestas)
    (listeners : siguiente.servidorasEscuchando = cliente.servidorasEscuchando)
    (downloads : siguiente.descargas = cliente.descargas) : Lanzadas siguiente := by
  constructor
  · intro puerto nombre member
    rw [listeners] at member
    obtain ⟨ip, texto, numero, acknowledged, read⟩ := lanzadas.servidoras puerto nombre member
    exact ⟨ip, texto, numero, replies acknowledged, read⟩
  · intro nombre direccion member
    rw [downloads] at member
    obtain ⟨found, replied⟩ := lanzadas.descargas nombre direccion member
    exact ⟨found, replies replied⟩

theorem Lanzadas.enviada {cliente : Estado} (lanzadas : Lanzadas cliente) :
    Lanzadas (enviada cliente) := by
  rcases cliente with ⟨punto, guion, respuestas, servidoras, descargas⟩
  cases punto with
  | menu => cases guion <;> exact lanzadas.mono (List.Subset.refl _) rfl rfl
  | _ => exact lanzadas.mono (List.Subset.refl _) rfl rfl

theorem Lanzadas.completa {cliente : Estado} (lanzadas : Lanzadas cliente)
    (operacion : Operacion) (reply : Bytes) : Lanzadas (completa cliente operacion reply) :=
  lanzadas.mono (List.subset_append_left _ _) rfl rfl

theorem mem_respuestas_completa (cliente : Estado) (operacion : Operacion) (reply : Bytes) :
    (operacion, reply) ∈ (completa cliente operacion reply).respuestas :=
  List.mem_append_right _ List.mem_cons_self

theorem Lanzadas.lanzaServidora {cliente : Estado} {nombre ip texto : Bytes}
    (lanzadas : Lanzadas cliente)
    (acknowledged : (.subir nombre ip texto, ack) ∈ cliente.respuestas) :
    Lanzadas (lanzaServidora cliente nombre texto) := by
  unfold Cliente.lanzaServidora
  cases read : stoi texto with
  | error causa => exact lanzadas.mono (List.Subset.refl _) rfl rfl
  | ok numero =>
      refine ⟨?_, lanzadas.descargas⟩
      intro puerto otro member
      rcases List.mem_append.mp member with before | last
      · exact lanzadas.servidoras puerto otro before
      · cases List.mem_singleton.mp last
        exact ⟨ip, texto, numero, acknowledged, read, rfl⟩

theorem Lanzadas.lanzaDescarga {cliente : Estado} {nombre reply : Bytes}
    (lanzadas : Lanzadas cliente) (replied : (.descargar nombre, reply) ∈ cliente.respuestas) :
    Lanzadas (lanzaDescarga cliente nombre reply) := by
  unfold Cliente.lanzaDescarga
  split
  · exact lanzadas
  · rename_i found
    refine ⟨lanzadas.servidoras, ?_⟩
    intro otro direccion member
    rcases List.mem_append.mp member with before | last
    · exact lanzadas.descargas otro direccion before
    · cases List.mem_singleton.mp last
      exact ⟨found, replied⟩

theorem Lanzadas.recibida {cliente : Estado} (lanzadas : Lanzadas cliente) (mensaje : Bytes) :
    Lanzadas (recibida cliente mensaje) := by
  unfold Cliente.recibida
  cases cliente.punto with
  | recibeListado => exact lanzadas.completa ..
  | recibeAckFinal nombre ip puerto =>
      simp only
      split
      · rename_i acknowledged
        subst acknowledged
        exact (lanzadas.completa ..).lanzaServidora (mem_respuestas_completa ..)
      · exact lanzadas.mono (List.Subset.refl _) rfl rfl
  | recibeDireccion nombre =>
      exact (lanzadas.completa ..).lanzaDescarga (mem_respuestas_completa ..)
  | _ => exact lanzadas.mono (List.Subset.refl _) rfl rfl

/-- Listeners are only added. -/
theorem servidoras_prefix_recibida (cliente : Estado) (mensaje : Bytes) :
    cliente.servidorasEscuchando <+: (recibida cliente mensaje).servidorasEscuchando := by
  unfold recibida
  cases cliente.punto with
  | recibeAckFinal nombre ip puerto =>
      simp only [lanzaServidora]
      split
      · split
        · exact List.prefix_refl _
        · exact List.prefix_append _ _
      · exact List.prefix_refl _
  | recibeDireccion nombre =>
      simp only [lanzaDescarga]
      split <;> exact List.prefix_refl _
  | _ => exact List.prefix_refl _

theorem servidoras_enviada (cliente : Estado) :
    (enviada cliente).servidorasEscuchando = cliente.servidorasEscuchando := by
  rcases cliente with ⟨punto, guion, respuestas, servidoras, descargas⟩
  cases punto <;> first | rfl | (cases guion <;> rfl)

end DescargaP2P.Cliente
