import DevEnv.Proofs.CommandLine.Calls
import DevEnv.Proofs.Dockerfile.Footprint

/-!
The host ports that the daemon binds for a container. A request says for each host port where it leads,
and the daemon gets for each container port which host port leads there: one, however many the request
has. Of host ports that lead to the same place only the last one is bound.
-/

namespace DevEnv.Daemon

set_option autoImplicit false

/-! ### Maps of pairs -/

section Pairs
variable {κ ν : Type} {key k : κ} {value v : ν} {map pairs : List (κ × ν)}

/-- The pair is in the list, and none behind it has its key. -/
def LastFor (k : κ) (v : ν) (pairs : List (κ × ν)) : Prop :=
  ∃ before after, pairs = before ++ (k, v) :: after ∧ k ∉ after.map Prod.fst

theorem lastFor_append_singleton_iff {p : κ × ν} : LastFor k v (pairs ++ [p]) ↔
    (k = p.1 ∧ v = p.2) ∨ (k ≠ p.1 ∧ LastFor k v pairs) := by
  constructor
  · rintro ⟨before, after, split, fresh⟩
    rcases List.eq_nil_or_concat after with rfl | ⟨after, q, rfl⟩
    · obtain ⟨-, rfl⟩ := List.append_singleton_inj.mp split
      exact .inl ⟨rfl, rfl⟩
    · rw [List.concat_eq_append, ← List.cons_append, ← List.append_assoc] at split
      obtain ⟨rfl, rfl⟩ := List.append_singleton_inj.mp split
      simp only [List.concat_eq_append, List.map_append, List.map_cons, List.map_nil,
        List.mem_append, List.mem_singleton, not_or] at fresh
      exact .inr ⟨fresh.2, before, after, rfl, fresh.1⟩
  · rintro (⟨rfl, rfl⟩ | ⟨other, before, after, rfl, fresh⟩)
    · exact ⟨pairs, [], rfl, List.not_mem_nil⟩
    · refine ⟨before, after ++ [p], by simp, ?_⟩
      simp only [List.map_append, List.map_cons, List.map_nil, List.mem_append,
        List.mem_singleton, not_or]
      exact ⟨fresh, other⟩

variable [BEq κ]

theorem ofPairs_append_singleton (pairs : List (κ × ν)) (p : κ × ν) :
    ofPairs (pairs ++ [p]) = assign p.1 p.2 (ofPairs pairs) := by
  unfold ofPairs
  rw [List.foldl_append]
  rfl

variable [LawfulBEq κ]

theorem mem_keys_assign : k ∈ (assign key value map).map Prod.fst ↔
    k = key ∨ k ∈ map.map Prod.fst := by
  induction map with
  | nil => simp [assign]
  | cons entry rest ih =>
    obtain ⟨l, w⟩ := entry
    rw [assign]
    split
    · rename_i same
      obtain rfl := eq_of_beq same
      simp
    · rw [List.map_cons, List.mem_cons, ih, List.map_cons, List.mem_cons]
      exact or_left_comm

theorem nodup_assign (distinct : (map.map Prod.fst).Nodup) :
    ((assign key value map).map Prod.fst).Nodup := by
  induction map with
  | nil => simp [assign]
  | cons entry rest ih =>
    obtain ⟨l, w⟩ := entry
    obtain ⟨fresh, others⟩ := List.nodup_cons.mp distinct
    rw [assign]
    split
    · exact distinct
    · rename_i different
      apply List.nodup_cons.mpr
      refine ⟨?_, ih others⟩
      intro member
      rcases mem_keys_assign.mp member with same | old
      · exact different (beq_iff_eq.mpr same)
      · exact fresh old

theorem mem_assign_iff (distinct : (map.map Prod.fst).Nodup) :
    (k, v) ∈ assign key value map ↔ (k = key ∧ v = value) ∨ (k ≠ key ∧ (k, v) ∈ map) := by
  induction map with
  | nil => simp [assign]
  | cons entry rest ih =>
    obtain ⟨l, w⟩ := entry
    obtain ⟨fresh, others⟩ := List.nodup_cons.mp distinct
    rw [assign]
    split
    · rename_i same
      obtain rfl := eq_of_beq same
      -- The key stands once, so no entry behind this one has it.
      have elsewhere : (k, v) ∈ rest → k ≠ l := by
        rintro member rfl
        exact fresh (List.mem_map.mpr ⟨_, member, rfl⟩)
      simp only [List.mem_cons, Prod.mk.injEq]
      constructor
      · rintro (here | later)
        · exact .inl here
        · exact .inr ⟨elsewhere later, .inr later⟩
      · rintro (here | ⟨other, ⟨same, -⟩ | later⟩)
        · exact .inl here
        · exact absurd same other
        · exact .inr later
    · rename_i different
      have apart : l ≠ key := fun same => different (beq_iff_eq.mpr same)
      simp only [List.mem_cons, Prod.mk.injEq, ih others]
      constructor
      · rintro (⟨rfl, rfl⟩ | here | ⟨other, later⟩)
        · exact .inr ⟨apart, .inl ⟨rfl, rfl⟩⟩
        · exact .inl here
        · exact .inr ⟨other, .inr later⟩
      · rintro (here | ⟨other, first | later⟩)
        · exact .inr (.inl here)
        · exact .inl first
        · exact .inr (.inr ⟨other, later⟩)

theorem nodup_ofPairs (pairs : List (κ × ν)) : ((ofPairs pairs).map Prod.fst).Nodup := by
  induction pairs using List.reverseRecOn with
  | nil => exact List.nodup_nil
  | append_singleton pairs p ih =>
    rw [ofPairs_append_singleton]
    exact nodup_assign ih

theorem mem_keys_ofPairs : k ∈ (ofPairs pairs).map Prod.fst ↔ k ∈ pairs.map Prod.fst := by
  induction pairs using List.reverseRecOn with
  | nil => rfl
  | append_singleton pairs p ih =>
    rw [ofPairs_append_singleton, mem_keys_assign, ih, List.map_append, List.mem_append,
      List.map_singleton, List.mem_singleton]
    exact or_comm

theorem mem_ofPairs_iff : (k, v) ∈ ofPairs pairs ↔ LastFor k v pairs := by
  induction pairs using List.reverseRecOn with
  | nil =>
    apply iff_of_false List.not_mem_nil
    rintro ⟨before, after, split, -⟩
    exact List.append_ne_nil_of_right_ne_nil before (List.cons_ne_nil _ after) split.symm
  | append_singleton pairs p ih =>
    rw [ofPairs_append_singleton, mem_assign_iff (nodup_ofPairs pairs), ih,
      lastFor_append_singleton_iff]

end Pairs

/-! ### Host ports -/

/-- What the daemon calls a container port. -/
def portName (port : Int) : String := toString port ++ "/tcp"

theorem portName_injective {m n : Int} (h : portName m = portName n) : m = n := by
  unfold portName at h
  exact Text.toString_injective ((String.append_left_inj "/tcp").mp h)

/-- The daemon is to bind this host port for a container port of this name. -/
def RunOrder.Binds (order : RunOrder) (name : String) (host : Json) : Prop :=
  ∃ ports, order.ports = some ports ∧ (name, host) ∈ ports

section Orders
variable {request : RunRequest} {name : String} {host host' : Json} {port : Int}

def binding (p : Json × Int) : String × Json := (portName p.2, p.1)

theorem mem_names_iff {ps : List (Json × Int)} :
    portName port ∈ (ps.map binding).map Prod.fst ↔ port ∈ ps.map Prod.snd := by
  simp only [List.map_map, List.mem_map]
  constructor
  · rintro ⟨p, member, same⟩
    exact ⟨p, member, portName_injective same⟩
  · rintro ⟨p, member, rfl⟩
    exact ⟨p, member, rfl⟩

theorem binds_iff_mem : (RunOrder.ofRequest request).Binds name host ↔
    (name, host) ∈ ofPairs (request.portMap.map binding) := by
  unfold RunOrder.Binds RunOrder.ofRequest
  cases request.portMap with
  | nil =>
    apply iff_of_false
    · rintro ⟨ports, none, -⟩
      cases none
    · exact List.not_mem_nil
  | cons p ps =>
    constructor
    · rintro ⟨ports, some, member⟩
      rw [← Option.some.inj some] at member
      exact member
    · intro member
      exact ⟨_, rfl, member⟩

/-- Of the host ports that lead to a container port the last one is bound. -/
theorem binds_iff : (RunOrder.ofRequest request).Binds name host ↔
    ∃ before port after, request.portMap = before ++ (host, port) :: after ∧
      name = portName port ∧ port ∉ after.map Prod.snd := by
  rw [binds_iff_mem, mem_ofPairs_iff]
  constructor
  · rintro ⟨before', after', split, fresh⟩
    obtain ⟨before, rest, whole, rfl, behind⟩ := List.map_eq_append_iff.mp split
    obtain ⟨⟨host, port⟩, after, rfl, same, rfl⟩ := List.map_eq_cons_iff.mp behind
    obtain ⟨rfl, rfl⟩ := Prod.mk.inj same
    exact ⟨before, port, after, whole, rfl, mt mem_names_iff.mpr fresh⟩
  · rintro ⟨before, port, after, whole, rfl, fresh⟩
    refine ⟨before.map binding, after.map binding, ?_, mt mem_names_iff.mp fresh⟩
    rw [whole, List.map_append, List.map_cons]
    rfl

theorem binds_unique (h : (RunOrder.ofRequest request).Binds name host)
    (h' : (RunOrder.ofRequest request).Binds name host') : host = host' := by
  rw [binds_iff_mem] at h h'
  have distinct := nodup_ofPairs (request.portMap.map binding)
  exact (Prod.mk.inj (List.inj_on_of_nodup_map distinct h h' rfl)).2

/-- Some host port is bound for every container port of the request. -/
theorem exists_binds (member : port ∈ request.portMap.map Prod.snd) :
    ∃ host, (RunOrder.ofRequest request).Binds (portName port) host ∧
      (host, port) ∈ request.portMap := by
  have named := mem_keys_ofPairs.mpr (mem_names_iff.mpr member)
  obtain ⟨⟨_, host⟩, entry, rfl⟩ := List.mem_map.mp named
  have bound := binds_iff_mem.mpr entry
  obtain ⟨before, port', after, whole, same, -⟩ := binds_iff.mp bound
  obtain rfl := portName_injective same
  refine ⟨host, bound, ?_⟩
  rw [whole]
  exact List.mem_append_right before List.mem_cons_self

/-- No host port is left out exactly if no two of them lead to the same container port. -/
theorem all_bound_iff :
    (∀ p ∈ request.portMap, (RunOrder.ofRequest request).Binds (portName p.2) p.1) ↔
      ∀ p ∈ request.portMap, ∀ q ∈ request.portMap, p.2 = q.2 → p.1 = q.1 := by
  constructor
  · intro bound p hp q hq same
    have first := bound p hp
    rw [same] at first
    exact binds_unique first (bound q hq)
  · intro single p hp
    obtain ⟨host, bound, member⟩ := exists_binds (List.mem_map_of_mem hp)
    have same : host = p.1 := single (host, p.2) member p hp rfl
    rwa [same] at bound

end Orders

/-- A container is asked for once, and of the host ports of the request that lead to the same container
port only the last one is bound. -/
theorem last_host_bound (request : RunRequest) :
    (∀ (σ : Type) (client : Client σ) (s : σ),
      (client.logging.runContainer request (s, [])).2.2 = [.run (.ofRequest request)]) ∧
    (∀ name host, (RunOrder.ofRequest request).Binds name host ↔
      ∃ before port after, request.portMap = before ++ (host, port) :: after ∧
        name = portName port ∧ port ∉ after.map Prod.snd) ∧
    (∀ port ∈ request.portMap.map Prod.snd, ∃ host,
      (RunOrder.ofRequest request).Binds (portName port) host ∧ (host, port) ∈ request.portMap) ∧
    ((∀ p ∈ request.portMap, (RunOrder.ofRequest request).Binds (portName p.2) p.1) ↔
      ∀ p ∈ request.portMap, ∀ q ∈ request.portMap, p.2 = q.2 → p.1 = q.1) :=
  ⟨fun _ client s => calls_runContainer client request s, fun _ _ => binds_iff,
    fun _ member => exists_binds member, all_bound_iff⟩

/-- A request for two host ports that lead to the same place. -/
def twoDoors : RunRequest :=
  ⟨"web:latest", "web", [(.integer 8080, 80), (.integer 9090, 80)], []⟩

theorem last_host_bound_twoDoors : (80 : Int) ∈ twoDoors.portMap.map Prod.snd ∧
    (∃ host, (RunOrder.ofRequest twoDoors).Binds "80/tcp" host) ∧
    (RunOrder.ofRequest twoDoors).Binds "80/tcp" (.integer 9090) := by
  have named : portName 80 = "80/tcp" := by decide
  have member : (80 : Int) ∈ twoDoors.portMap.map Prod.snd := by decide
  obtain ⟨-, bound, some, -⟩ := last_host_bound twoDoors
  obtain ⟨host, first, -⟩ := some 80 member
  have last := (bound (portName 80) (.integer 9090)).mpr
    ⟨[(.integer 8080, 80)], 80, [], rfl, rfl, List.not_mem_nil⟩
  rw [named] at first last
  exact ⟨member, ⟨host, first⟩, last⟩

/-- The first of two host ports is not bound. -/
theorem first_host_lost : ¬ ∀ request : RunRequest, ∀ p ∈ request.portMap,
    (RunOrder.ofRequest request).Binds (portName p.2) p.1 := by
  intro claim
  obtain ⟨ports, some, member⟩ := claim twoDoors (.integer 8080, 80) List.mem_cons_self
  have only : ports = [("80/tcp", .integer 9090)] := Option.some.inj (some.symm.trans rfl)
  rw [only] at member
  exact absurd member (by decide)

end DevEnv.Daemon
