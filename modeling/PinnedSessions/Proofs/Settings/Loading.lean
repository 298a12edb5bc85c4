import Mathlib.Data.List.Perm.Subperm
import PinnedSessions.Proofs.Guest.Reread
import PinnedSessions.Settings.Serial

/-! # Loading settings

Settings are read from any text of an object that has some of their members, in any order and among
unknown ones (`loading_exact`). A member that is there gives its option, and one that is not leaves
the option at its default; what an unknown member holds does not matter, and a known member that
comes twice is refused. -/

namespace PinnedSessions

variable {key : String} {ms : List (String × Json)}

/-! ### Looking for a member -/

/-- Where a member is looked for among members with readable keys. -/
theorem Json.member?_map (key : String) (ms : List (String × Json)) :
    member? key (ms.map fun m => (some m.1, m.2)) =
      match ms.filter fun m => m.1 = key with
      | [] => some none
      | [m] => some (some m.2)
      | _ => none := by
  have hfilter : (ms.map fun m => (some m.1, m.2)).filter (fun m => decide (m.1 = some key)) =
      (ms.filter fun m => m.1 = key).map fun m => (some m.1, m.2) := by
    rw [List.filter_map]
    congr 1
    refine List.filter_congr fun m _ => ?_
    simp
  rw [member?, hfilter]
  generalize (ms.filter fun m => m.1 = key) = found
  rcases found with _ | ⟨m, _ | ⟨m', rest⟩⟩ <;> rfl

theorem Json.member?_absent (h : key ∉ ms.map Prod.fst) :
    member? key (ms.map fun m => (some m.1, m.2)) = some none := by
  have hnil : (ms.filter fun m => m.1 = key) = [] := by
    rw [List.filter_eq_nil_iff]
    intro m hm heq
    exact h (List.mem_map.2 ⟨m, hm, of_decide_eq_true heq⟩)
  rw [member?_map, hnil]

theorem Json.member?_single {j : Json} (h : (ms.filter fun m => m.1 = key) = [(key, j)]) :
    member? key (ms.map fun m => (some m.1, m.2)) = some (some j) := by
  rw [member?_map, h]

theorem Json.member?_repeated (h : 2 ≤ (ms.map Prod.fst).count key) :
    member? key (ms.map fun m => (some m.1, m.2)) = none := by
  have hlength : 2 ≤ (ms.filter fun m => m.1 = key).length := by
    rw [List.count_eq_countP, List.countP_map, List.countP_eq_length_filter] at h
    exact h
  rw [member?_map]
  split
  · next heq => rw [heq] at hlength; simp at hlength
  · next heq => rw [heq] at hlength; simp at hlength
  · rfl

namespace Settings

/-- The options whose keys are kept, with the defaults in place of the others. A resolver is never
kept. -/
def retaining (kept : List String) (c : Settings) : Settings where
  interactive := if "interactive" ∈ kept then c.interactive else false
  searchPath := if "include_paths" ∈ kept then c.searchPath else []
  sharedModules := if "shared_modules" ∈ kept then c.sharedModules else []
  redirectOutput := if "redirect_output_streams" ∈ kept then c.redirectOutput else false
  isolated := if "isolated" ∈ kept then c.isolated else true
  postponed := if "postpone_init" ∈ kept then c.postponed else false
  resolver := none

/-! ### Members among others -/

variable {c : Settings}

/-- Some members in any order, of which those with known keys are members of some settings, none of
them twice. -/
def Holds (ms : List (String × Json)) (c : Settings) : Prop :=
  (ms.filter fun m => m.1 ∈ keys).Subperm (keys.zip c.options)

/-- A known key is looked up as in the settings, if it is there at all. -/
theorem Holds.member? (h : Holds ms c) (key : String) (j : Json)
    (hj : ((keys.zip c.options).filter fun m => m.1 = key) = [(key, j)]) :
    Json.member? key (ms.map fun m => (some m.1, m.2)) =
      some (if key ∈ ms.map Prod.fst then some j else none) := by
  have hkey : key ∈ keys := by
    have hmem : (key, j) ∈ (keys.zip c.options).filter fun m => m.1 = key := by
      rw [hj]
      exact .head _
    exact (List.of_mem_zip (List.mem_filter.1 hmem).1).1
  have hsub : (ms.filter fun m => m.1 = key).Subperm [(key, j)] := by
    have hfilter := h.filter fun m => m.1 = key
    rw [hj, List.filter_filter] at hfilter
    have hsame : (ms.filter fun m => decide (m.1 = key) && decide (m.1 ∈ keys)) =
        ms.filter fun m => m.1 = key := by
      refine List.filter_congr fun m _ => ?_
      by_cases hm : m.1 = key
      · simp [hm, hkey]
      · simp [hm]
    rwa [hsame] at hfilter
  by_cases hin : key ∈ ms.map Prod.fst
  · obtain ⟨m, hm, hmkey⟩ := List.mem_map.1 hin
    have hfound : m ∈ ms.filter fun m => m.1 = key := by
      rw [List.mem_filter]
      exact ⟨hm, decide_eq_true hmkey⟩
    have hone : (ms.filter fun m => m.1 = key) = [(key, j)] :=
      List.perm_singleton.1 (hsub.perm_of_length_le (List.length_pos_of_mem hfound))
    rw [if_pos hin, Json.member?_single hone]
  · rw [if_neg hin, Json.member?_absent hin]

/-! ### Options -/

/-- An option that is kept or left at its default. -/
theorem orDefault_kept {α : Type} {read : Json → Option α} {j : Json} {x : α}
    (h : read j = some x) (absent : α) (kept : Prop) [Decidable kept] :
    orDefault read absent (if kept then some j else none) = some (if kept then x else absent) := by
  by_cases hk : kept
  · rw [if_pos hk, if_pos hk, orDefault, h]
  · rw [if_neg hk, if_neg hk, orDefault]

theorem items?_textsJson (ss : List String) : (textsJson ss).items? Json.text? = some ss :=
  Json.items?_map Json.text?_text ss

theorem keysReadable_map (ms : List (String × Json)) :
    Json.keysReadable (ms.map fun m => (some m.1, m.2)) = true := by
  rw [Json.keysReadable, List.all_map]
  exact List.all_eq_true.2 fun _ _ => rfl

theorem ofJson?_ofMembers (h : Holds ms c) :
    ofJson? (.ofMembers ms) = some (c.retaining (ms.map Prod.fst)) := by
  rw [Json.ofMembers, ofJson?, if_pos (keysReadable_map ms),
    h.member? "interactive" (.bool c.interactive) rfl,
    h.member? "include_paths" (textsJson c.searchPath) rfl,
    h.member? "shared_modules" (textsJson c.sharedModules) rfl,
    h.member? "redirect_output_streams" (.bool c.redirectOutput) rfl,
    h.member? "isolated" (.bool c.isolated) rfl,
    h.member? "postpone_init" (.bool c.postponed) rfl]
  simp only [Option.bind_eq_bind, Option.bind_some, ofOptions?,
    orDefault_kept (Json.bool?_bool _), orDefault_kept (items?_textsJson _)]
  rfl

/-- A known key that comes twice is refused, whatever else there is. -/
theorem ofJson?_repeated (hk : key ∈ keys) (h : 2 ≤ (ms.map Prod.fst).count key) :
    ofJson? (.ofMembers ms) = none := by
  have hnone := Json.member?_repeated h
  rw [Json.ofMembers, ofJson?, if_pos (keysReadable_map ms)]
  simp only [keys, List.mem_cons, List.not_mem_nil, or_false] at hk
  rcases hk with rfl | rfl | rfl | rfl | rfl | rfl <;>
    simp only [hnone, Option.bind_eq_bind, Option.bind_none, Option.bind_fun_none]

/-! ### Texts -/

theorem proper_textsJson (ss : List String) : (textsJson ss).Proper :=
  Json.proper_map Json.proper_text ss

theorem proper_toJson (c : Settings) : c.toJson.Proper := by
  refine Json.proper_ofMembers fun m hm => ?_
  have hoption : m.2 ∈ c.options := (List.of_mem_zip hm).2
  simp only [options, List.mem_cons, List.not_mem_nil, or_false] at hoption
  rcases hoption with h | h | h | h | h | h <;> rw [h]
  case inr.inl | inr.inr.inl => exact proper_textsJson _
  all_goals exact .bool _

/-- What is loaded is what the text says. Settings come back from their own text, but for the
resolver. From a text of an object that has some of their members, in any order and with any members
between them whose keys are unknown, the options that are there come back and the others are at
their defaults, which isolates the session. A known key that comes twice is refused. -/
theorem loading_exact (c : Settings) :
    ofJsonText? c.jsonText = some { c with resolver := none } ∧
    (∀ (ms : List (String × Json)) (text : String),
      (ms.filter fun m => m.1 ∈ keys).Subperm (keys.zip c.options) →
      Json.Spelled (.ofMembers ms) text.toList →
      ofJsonText? text = some (c.retaining (ms.map Prod.fst))) ∧
    (∀ (ms : List (String × Json)) (text : String),
      (∃ key ∈ keys, 2 ≤ (ms.map Prod.fst).count key) →
      Json.Spelled (.ofMembers ms) text.toList → ofJsonText? text = none) := by
  have hsome : ∀ (ms : List (String × Json)) (text : String), Holds ms c →
      Json.Spelled (.ofMembers ms) text.toList →
      ofJsonText? text = some (c.retaining (ms.map Prod.fst)) := by
    intro ms text h ht
    rw [ofJsonText?, Json.parse_of_spelled ht, Option.bind_some, ofJson?_ofMembers h]
  refine ⟨?_, hsome, ?_⟩
  · have hall : Holds (keys.zip c.options) c := List.filter_sublist.subperm
    exact hsome _ _ hall (Json.spelled_compact c.proper_toJson)
  · rintro ms text ⟨key, hk, h⟩ ht
    rw [ofJsonText?, Json.parse_of_spelled ht, Option.bind_some, ofJson?_repeated hk h]

/-- Two options, the later one first, around a member with an unknown key. -/
def shuffled : List (String × Json) :=
  [("postpone_init", .bool true), ("later", .array [.null, .int 3]), ("interactive", .bool true)]

/-- Options in another order are found, and one that is left out is at its default.
An option that comes twice is refused, although it says the same both times. -/
theorem loading_exact_shuffled :
    ofJsonText? "\x7b\"postpone_init\":true,\"later\":[null,3],\"interactive\":true\x7d" =
        some { interactive := true, isolated := true, postponed := true } ∧
      ofJsonText? "\x7b\"isolated\":true,\"isolated\":true\x7d" = none := by
  obtain ⟨-, hsome, hnone⟩ :=
    loading_exact { interactive := true, isolated := false, postponed := true }
  have hlater : (Json.array [.null, .int 3]).Proper := by
    refine .array fun j hj => ?_
    simp only [List.mem_cons, List.not_mem_nil, or_false] at hj
    rcases hj with rfl | rfl
    · exact .null
    · exact Json.proper_int 3
  have hproper : (Json.ofMembers shuffled).Proper := by
    refine Json.proper_ofMembers fun m hm => ?_
    simp only [shuffled, List.mem_cons, List.not_mem_nil, or_false] at hm
    rcases hm with rfl | rfl | rfl
    · exact .bool true
    · exact hlater
    · exact .bool true
  have hsub : (shuffled.filter fun m => m.1 ∈ keys).Subperm
      (keys.zip (options { interactive := true, isolated := false, postponed := true })) :=
    ⟨_, .swap _ _ _, .cons_cons _ (.cons _ (.cons _ (.cons _ (.cons _ (.cons_cons _ .slnil)))))⟩
  have hrepeated : (Json.ofMembers [("isolated", .bool true), ("isolated", .bool true)]).Proper := by
    refine Json.proper_ofMembers fun m hm => ?_
    simp only [List.mem_cons, List.not_mem_nil, or_false, or_self] at hm
    rw [hm]
    exact .bool true
  exact ⟨hsome shuffled _ hsub (Json.spelled_compact hproper),
    hnone [("isolated", .bool true), ("isolated", .bool true)] _ ⟨"isolated", by decide, by decide⟩
      (Json.spelled_compact hrepeated)⟩

end Settings

end PinnedSessions
