import SpeciesBrowser.Controller
import Mathlib.Data.List.Nodup

/-!
# Numbered requests

A controller numbers its requests from one on and waits for the response to the last of them. A
request is known by its number, and zero is the number of none.
-/

namespace SpeciesBrowser

/-- Requests are numbered from one on, and the controller waits for the last of them. -/
structure Numbered (issued : List Request) (controller : Controller) : Prop where
  ids : issued.map (·.id.toNat) = List.range' 1 issued.length
  next : controller.nextId.toNat = issued.length + 1
  latest : controller.latestId.toNat = issued.length
  query : ∀ request, issued.getLast? = some request → request.query = controller.query

namespace Numbered

variable {issued : List Request} {controller after : Controller} {request other : Request}

theorem openAt (config : ListConfig) (page : Page) : Numbered [] (.openAt config page) :=
  ⟨rfl, rfl, rfl, nofun⟩

theorem handle (numbered : Numbered issued controller) (outcome : Outcome) :
    Numbered issued { controller with outcome } :=
  ⟨numbered.ids, numbered.next, numbered.latest, numbered.query⟩

theorem ask {page : Page} (numbered : Numbered issued controller)
    (few : issued.length + 1 < maxWord)
    (asks : after = ({ controller with page } : Controller).issued) :
    Numbered (issued ++ [{ id := controller.nextId, query := controller.config.query page }])
      after := by
  subst asks
  have next := numbered.next
  constructor
  · rw [List.map_append, numbered.ids, List.length_append, List.length_singleton,
      List.range'_concat]
    simp only [List.map_cons, List.map_nil, next]
    rw [Nat.add_comm, Nat.one_mul]
  · change (controller.nextId + 1).toNat = _
    rw [UInt64.toNat_add, next, List.length_append, List.length_singleton]
    have room : issued.length + 1 + 1 < UInt64.size := by
      unfold maxWord at few
      omega
    exact Nat.mod_eq_of_lt room
  · change controller.nextId.toNat = _
    rw [next, List.length_append, List.length_singleton]
  · intro request last
    rw [List.getLast?_concat] at last
    cases last
    rfl

theorem nodup_ids (numbered : Numbered issued controller) : (issued.map (·.id)).Nodup := by
  have distinct : ((issued.map (·.id)).map UInt64.toNat).Nodup := by
    rw [List.map_map]
    exact numbered.ids ▸ List.nodup_range'
  exact distinct.of_map _

theorem eq_of_id (numbered : Numbered issued controller) (one : request ∈ issued)
    (two : other ∈ issued) (same : request.id = other.id) : request = other :=
  List.inj_on_of_nodup_map numbered.nodup_ids one two same

theorem id_le (numbered : Numbered issued controller) (member : request ∈ issued) :
    request.id.toNat ≤ issued.length := by
  have listed : request.id.toNat ∈ List.range' 1 issued.length :=
    numbered.ids ▸ List.mem_map_of_mem member
  have bounds := List.mem_range'_1.mp listed
  omega

theorem id_ne_next (numbered : Numbered issued controller) (member : request ∈ issued) :
    request.id ≠ controller.nextId := by
  intro same
  have low := numbered.id_le member
  rw [same, numbered.next] at low
  omega

theorem id_of_getLast? (numbered : Numbered issued controller)
    (last : issued.getLast? = some request) : request.id = controller.latestId := by
  have nonempty : issued.length ≠ 0 := by
    intro empty
    rw [List.eq_nil_of_length_eq_zero empty] at last
    cases last
  have place : (issued.map (·.id.toNat)).getLast? = some request.id.toNat := by
    rw [List.getLast?_map, last]
    rfl
  rw [numbered.ids, List.getLast?_range', if_neg nonempty, Option.some.injEq] at place
  apply UInt64.toNat_inj.mp
  rw [numbered.latest, ← place]
  omega

theorem getLast?_of_id (numbered : Numbered issued controller) (member : request ∈ issued)
    (same : request.id = controller.latestId) : issued.getLast? = some request := by
  have last := List.getLast?_eq_some_getLast (List.ne_nil_of_mem member)
  have equal := numbered.eq_of_id member (List.getLast_mem _)
    (same.trans (numbered.id_of_getLast? last).symm)
  exact last.trans (congrArg some equal.symm)

end Numbered

end SpeciesBrowser
