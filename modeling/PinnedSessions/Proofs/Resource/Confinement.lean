import PinnedSessions.Resource.Resolver

/-! # Resources and the roots below which they are found

A resolver puts a resource behind a root and takes the path that comes of it if it leads anywhere.
The path is not normalised, so it need not stay below the root.

* `Path.resolved` is what a path comes to without its dots. There are no links, so a path that leads
  somewhere leads to the entry at its resolved place (`Files.entryAt_of_lookup`).
* A resource behind a root goes up from the root as often as it goes up by itself, and then down
  (`Path.resolved_join`). So it stays below the root unless it goes up, and one that goes up comes
  back below the root exactly if it goes down again by the names that it has left
  (`Path.within_join_iff`).
* What a resolver finds is such a path, whatever paths lead anywhere (`found_of_search`), and among
  files it leads to its resolved place (`located_of_resolve`). An absolute resource is refused, but
  one that goes up is not, and may be found outside of all roots (`found_outside`). -/

namespace PinnedSessions

namespace Path

/-! ### Paths without dots -/

/-- A path without its dots: whether it starts at the root of the file system, how often it goes up
from where it starts, and the names on the way down from there, innermost one first. -/
structure Resolved where
  absolute : Bool
  ups : Nat := 0
  names : List String := []
deriving DecidableEq

namespace Resolved

/-- One directory up; there is nothing above the root of the file system. -/
def up (p : Resolved) : Resolved :=
  match p.names with
  | _ :: names => { p with names := names }
  | [] => if p.absolute then p else { p with ups := p.ups + 1 }

/-- One component on. -/
def step (p : Resolved) (name : String) : Resolved :=
  if name = "" ∨ name = "." then p
  else if name = ".." then p.up
  else { p with names := name :: p.names }

/-- Several directories up. -/
def climb (p : Resolved) : Nat → Resolved
  | 0 => p
  | n + 1 => (p.climb n).up

/-- From one path on along a relative one. -/
def follow (root p : Resolved) : Resolved :=
  { root.climb p.ups with names := p.names ++ (root.climb p.ups).names }

/-- Whether a path is equal to another one or below it. -/
def Within (p root : Resolved) : Prop :=
  p.absolute = root.absolute ∧ p.ups = root.ups ∧ root.names <:+ p.names

instance (p root : Resolved) : Decidable (p.Within root) :=
  inferInstanceAs (Decidable (_ ∧ _ ∧ _))

/-- Whether a relative path goes up from a root only to go down again by the names that it has
left. -/
def ReturnsTo (p root : Resolved) : Prop :=
  (root.absolute = true ∨ p.ups ≤ root.names.length) ∧ root.names.take p.ups <:+ p.names

end Resolved

/-- What a path comes to without its dots. -/
def resolved (p : String) : Resolved := (components p).foldl Resolved.step ⟨isAbsolute p, 0, []⟩

/-! ### Going up and going down -/

namespace Resolved

theorem absolute_up (p : Resolved) : p.up.absolute = p.absolute := by
  rw [up]
  split
  · rfl
  · split <;> rfl

theorem absolute_step (p : Resolved) (name : String) : (p.step name).absolute = p.absolute := by
  rw [step]
  split
  · rfl
  · split
    · exact p.absolute_up
    · rfl

theorem names_up (p : Resolved) : p.up.names = p.names.tail := by
  rw [up]
  split
  · next heq => rw [heq]; rfl
  · next heq => split <;> rw [heq] <;> rfl

theorem absolute_climb (p : Resolved) (n : Nat) : (p.climb n).absolute = p.absolute := by
  induction n with
  | zero => rfl
  | succ n ih => rw [climb, absolute_up, ih]

/-- Going up drops the innermost names. -/
theorem names_climb (p : Resolved) (n : Nat) : (p.climb n).names = p.names.drop n := by
  induction n with
  | zero => rfl
  | succ n ih => rw [climb, names_up, ih, List.tail_drop]

/-- When the names are used up, a path that is not absolute goes on upwards. -/
theorem ups_climb (p : Resolved) (n : Nat) :
    (p.climb n).ups = if p.absolute then p.ups else p.ups + (n - p.names.length) := by
  induction n with
  | zero => split <;> simp [climb]
  | succ n ih =>
      have hnames := p.names_climb n
      have habs := p.absolute_climb n
      rw [climb, up]
      split
      · next heq =>
        rw [heq] at hnames
        have hlen := congrArg List.length hnames
        rw [List.length_cons, List.length_drop] at hlen
        dsimp only
        rw [ih]
        split <;> omega
      · next heq =>
        rw [heq] at hnames
        have hlen := congrArg List.length hnames
        rw [List.length_nil, List.length_drop] at hlen
        rw [habs]
        split
        · next ha => rw [ih, if_pos ha]
        · next ha =>
          dsimp only
          rw [ih, if_neg ha]
          omega

theorem follow_start (root : Resolved) : root.follow ⟨false, 0, []⟩ = root := rfl

/-- To go one component on along the relative path is to go it on from where that leads. -/
theorem step_follow (root : Resolved) {p : Resolved} (hp : p.absolute = false) (name : String) :
    (root.follow p).step name = root.follow (p.step name) := by
  rw [step, step]
  split
  · rfl
  · split
    · obtain ⟨absolute, ups, names⟩ := p
      cases hp
      cases names with
      | cons n names => rfl
      | nil => rfl
    · rfl

theorem foldl_follow (root : Resolved) (cs : List String) {p : Resolved}
    (hp : p.absolute = false) :
    cs.foldl step (root.follow p) = root.follow (cs.foldl step p) := by
  induction cs generalizing p with
  | nil => rfl
  | cons c cs ih =>
      rw [List.foldl_cons, List.foldl_cons, step_follow root hp]
      exact ih ((p.absolute_step c).trans hp)

/-- Whether a relative path leads from a root to something below it. -/
theorem within_follow_iff (root p : Resolved) :
    (root.follow p).Within root ↔ p.ReturnsTo root := by
  have hnames : root.names <:+ p.names ++ root.names.drop p.ups ↔
      root.names.take p.ups <:+ p.names := by
    have hsplit := List.take_append_drop p.ups root.names
    calc root.names <:+ p.names ++ root.names.drop p.ups
      _ ↔ root.names.take p.ups ++ root.names.drop p.ups <:+ p.names ++ root.names.drop p.ups := by
        rw [hsplit]
      _ ↔ root.names.take p.ups <:+ p.names := List.suffix_append_self_iff
  have hups : (root.climb p.ups).ups = root.ups ↔
      root.absolute = true ∨ p.ups ≤ root.names.length := by
    rw [ups_climb]
    split
    · next ha => simp [ha]
    · next ha =>
      rw [or_iff_right ha]
      omega
  rw [Within, follow, ReturnsTo]
  dsimp only
  rw [absolute_climb, names_climb, hups, hnames]
  exact and_iff_right rfl

end Resolved

/-! ### Joined paths -/

theorem components_eq (p : String) :
    components p = (p.toList.splitOn '/').map String.ofList := rfl

/-- Joining adds a slash unless the directory is empty or ends in one. -/
theorem join_cases {resource : String} (h : isAbsolute resource = false) (directory : String) :
    (directory.toList = [] ∧ (join directory resource).toList = resource.toList) ∨
      (∃ ds, directory.toList = ds ++ ['/'] ∧
        (join directory resource).toList = ds ++ '/' :: resource.toList) ∨
      (directory.toList ≠ [] ∧
        (join directory resource).toList = directory.toList ++ '/' :: resource.toList) := by
  rw [join, h, if_neg Bool.false_ne_true]
  dsimp only
  rcases directory.toList.eq_nil_or_concat with hnil | ⟨ds, d, hds⟩
  · rw [hnil, List.isEmpty_nil, Bool.true_or, if_pos rfl, String.toList_append, hnil]
    exact .inl ⟨rfl, rfl⟩
  · rw [List.concat_eq_append] at hds
    by_cases hd : d = '/'
    · subst hd
      rw [hds, if_pos (by simp), String.toList_append, hds, List.append_assoc]
      exact .inr (.inl ⟨ds, rfl, rfl⟩)
    · rw [hds, if_neg (by simp [hd]), String.toList_append, String.toList_append, hds,
        List.append_assoc]
      exact .inr (.inr ⟨by simp, rfl⟩)

/-- A joined path is the directory, and from there on the resource. -/
theorem foldl_components_join {resource : String} (h : isAbsolute resource = false)
    (directory : String) (p : Resolved) :
    (components (join directory resource)).foldl Resolved.step p =
      (components resource).foldl Resolved.step
        ((components directory).foldl Resolved.step p) := by
  rw [components_eq, components_eq, components_eq]
  -- an empty component leads nowhere, so it makes no difference which of them is there
  rcases join_cases h directory with ⟨hd, hjoin⟩ | ⟨ds, hd, hjoin⟩ | ⟨-, hjoin⟩
  · rw [hjoin, hd]
    rfl
  · rw [hjoin, hd, List.splitOn_append_cons_self, List.splitOn_append_cons_self, List.map_append,
      List.map_append, List.foldl_append, List.foldl_append]
    rfl
  · rw [hjoin, List.splitOn_append_cons_self, List.map_append, List.foldl_append]

theorem isAbsolute_join {resource : String} (h : isAbsolute resource = false)
    (directory : String) : isAbsolute (join directory resource) = isAbsolute directory := by
  rw [isAbsolute, isAbsolute]
  rcases join_cases h directory with ⟨hd, hjoin⟩ | ⟨ds, hd, hjoin⟩ | ⟨hd, hjoin⟩
  · rw [hjoin, hd]
    exact h
  · rw [hjoin, hd]
    cases ds <;> rfl
  · rw [hjoin]
    cases hlist : directory.toList with
    | nil => exact absurd hlist hd
    | cons d ds => rfl

/-- Behind a root a resource leads where it leads by itself from there. -/
theorem resolved_join {resource : String} (h : isAbsolute resource = false) (root : String) :
    resolved (join root resource) = (resolved root).follow (resolved resource) := by
  have hself : resolved resource = (components resource).foldl Resolved.step ⟨false, 0, []⟩ := by
    rw [resolved, h]
  rw [resolved, foldl_components_join h, isAbsolute_join h, ← resolved, hself,
    ← Resolved.foldl_follow _ _ rfl, Resolved.follow_start]

/-- Behind a root a resource stays below it, or comes back, unless it goes up and down again by
other names. -/
theorem within_join_iff {resource : String} (h : isAbsolute resource = false) (root : String) :
    (resolved (join root resource)).Within (resolved root) ↔
      (resolved resource).ReturnsTo (resolved root) := by
  rw [resolved_join h, Resolved.within_follow_iff]

/-- A resource that does not go up stays below every root. -/
theorem within_join {resource : String} (h : isAbsolute resource = false)
    (hups : (resolved resource).ups = 0) (root : String) :
    (resolved (join root resource)).Within (resolved root) := by
  rw [within_join_iff h, Resolved.ReturnsTo, hups, List.take_zero]
  exact ⟨.inr (Nat.zero_le _), List.nil_suffix⟩

/-! ### Where a resolved path is -/

namespace Resolved

/-- Whether a resolved path leads above the working directory. -/
def Leaves (p : Resolved) : Prop := p.absolute = true ∨ 0 < p.ups

instance (p : Resolved) : Decidable p.Leaves := inferInstanceAs (Decidable (_ ∨ _))

/-- The place of a resolved path; above the working directory there are no names. -/
def place (p : Resolved) : Place := if p.Leaves then .above else .below p.names

/-- Above the working directory only the chain of its parents is known. -/
def Known (p : Resolved) : Prop := p.Leaves → p.names = []

theorem place_eq_above {p : Resolved} (h : p.Leaves) : p.place = .above := if_pos h

theorem place_eq_below {p : Resolved} (h : ¬ p.Leaves) (names : List String) :
    place { p with names := names } = .below names := if_neg h

end Resolved

end Path

/-- The parent of a place. -/
def Place.up : Place → Place
  | .below (_ :: names) => .below names
  | _ => .above

namespace Files

open PinnedSessions.Path

variable {files : Files} {p : Resolved} {name : String} {place : Place}

theorem descend_parent (files : Files) (place : Place) :
    files.descend place ".." = .ok place.up := by
  rcases place with (_ | ⟨n, names⟩) | _ <;> rfl

/-- The place of the parent is the parent of the place. -/
theorem place_up (hp : p.Known) : p.up.place = p.place.up ∧ p.up.Known := by
  by_cases hl : p.Leaves
  · have hup : p.up.Leaves := by
      rw [Resolved.Leaves, p.absolute_up]
      refine hl.imp_right fun hups => ?_
      rw [Resolved.up, hp hl]
      dsimp only
      split
      · exact hups
      · exact Nat.succ_pos _
    rw [Resolved.place_eq_above hl, Resolved.place_eq_above hup]
    refine ⟨rfl, fun _ => ?_⟩
    rw [p.names_up, hp hl]
    rfl
  · have hplace : p.place = .below p.names := Resolved.place_eq_below hl p.names
    rw [hplace, Resolved.up]
    split
    · next n names heq =>
      rw [heq, Resolved.place_eq_below hl]
      exact ⟨rfl, fun h => absurd h hl⟩
    · next heq =>
      rw [if_neg fun ha => hl (.inl ha), heq]
      exact ⟨Resolved.place_eq_above (.inr (Nat.succ_pos _)), fun _ => rfl⟩

/-- One component on, a path that still leads somewhere is at its resolved place. -/
theorem place_of_descend (hp : p.Known) (h : files.descend p.place name = .ok place) :
    place = (p.step name).place ∧ (p.step name).Known := by
  by_cases hstay : name = "" ∨ name = "."
  · rw [Resolved.step, if_pos hstay]
    rw [descend.eq_def, if_pos hstay] at h
    exact ⟨(Except.ok.inj h).symm, hp⟩
  by_cases hparent : name = ".."
  · subst hparent
    rw [descend_parent] at h
    obtain ⟨hplace, hknown⟩ := place_up hp
    rw [Resolved.step, if_neg hstay, if_pos rfl]
    exact ⟨(Except.ok.inj h).symm.trans hplace.symm, hknown⟩
  · rw [descend.eq_def, if_neg hstay, if_neg hparent] at h
    rw [Resolved.step, if_neg hstay, if_neg hparent]
    split at h
    · cases h
    · by_cases hl : p.Leaves
      · rw [Resolved.place_eq_above hl] at h
        cases h
      · have hplace : p.place = .below p.names := Resolved.place_eq_below hl p.names
        rw [hplace] at h
        rw [Resolved.place_eq_below hl]
        dsimp only at h
        split at h
        · exact ⟨(Except.ok.inj h).symm, fun h => absurd h hl⟩
        · cases h

/-- A path that can be followed leads to its resolved place. -/
theorem place_of_walk {names : List String} (hp : p.Known)
    (h : files.walk p.place names = .ok place) : place = (names.foldl Resolved.step p).place := by
  induction names generalizing p with
  | nil => exact (Except.ok.inj h).symm
  | cons name names ih =>
      rw [walk] at h
      split at h
      · split at h
        · next next hd =>
          obtain ⟨rfl, hknown⟩ := place_of_descend hp hd
          exact ih hknown h
        · cases h
      · cases h
      · cases h

/-- A path that leads to an entry leads to the one at its resolved place. -/
theorem entryAt_of_lookup {path : String} {entry : Entry} (h : files.lookup path = .ok entry) :
    files.entryAt (resolved path).place = some entry := by
  let start : Resolved := ⟨isAbsolute path, 0, []⟩
  have hstart : (if isAbsolute path then Place.above else .below []) = start.place := by
    unfold start
    cases isAbsolute path <;> rfl
  rw [lookup, startOf, hstart] at h
  split at h
  · cases h
  split at h
  · cases h
  split at h
  · cases h
  cases hw : files.walk start.place (components path) with
  | error fault =>
      simp only [bind, Except.bind, hw] at h
      cases h
  | ok place =>
      have hplace : place = (resolved path).place := place_of_walk (fun _ => rfl) hw
      simp only [bind, Except.bind, hw] at h
      cases he : files.entryAt place with
      | none => rw [he] at h; cases h
      | some e =>
          rw [he] at h
          cases h
          rw [← hplace, he]

end Files

/-! ### What a resolver finds -/

namespace Resolver

open PinnedSessions.Path

/-- What is known of a path to a resource that leads somewhere, whatever paths do. -/
structure Found (r : Resolver) (present : String → Bool) (resource p : String) : Prop where
  relative : isAbsolute resource = false
  there : present p = true
  /-- It is the resource behind the first root behind which that leads anywhere, and it is below
  that root exactly if the resource returns to it. -/
  root : ∃ before root after, r.roots = before ++ root :: after ∧ p = join root resource ∧
    (∀ d ∈ before, present (join d resource) = false) ∧
    ((resolved p).Within (resolved root) ↔ (resolved resource).ReturnsTo (resolved root))
  /-- It is below a root if the resource does not go up. -/
  confined : (resolved resource).ups = 0 → ∃ root ∈ r.roots, (resolved p).Within (resolved root)

/-- What is known of a path under which a resolver has found a resource among files. -/
structure Located (r : Resolver) (files : Files) (resource p : String) : Prop extends
    Found r files.pathExists resource p where
  /-- It leads to the entry at its resolved place. -/
  entry : ∃ e, files.lookup p = .ok e ∧ files.entryAt (resolved p).place = some e

theorem found_of_search {r : Resolver} {present : String → Bool} {resource p : String}
    (h : r.search present resource = some p) : Found r present resource p := by
  rw [search] at h
  cases hrel : isAbsolute resource with
  | true =>
      rw [hrel, if_pos rfl] at h
      cases h
  | false =>
      rw [hrel, if_neg Bool.false_ne_true] at h
      obtain ⟨hthere, before, after, hpaths, hbefore⟩ := List.find?_eq_some_iff_append.1 h
      obtain ⟨roots, rest, hroots, hmap, hrest⟩ := List.map_eq_append_iff.1 hpaths
      obtain ⟨root, after', rfl, rfl, -⟩ := List.map_eq_cons_iff.1 hrest
      have hmissing : ∀ d ∈ roots, present (join d resource) = false := by
        intro d hd
        rw [← hmap] at hbefore
        simpa using hbefore _ (List.mem_map_of_mem hd)
      have hmem : root ∈ r.roots := by
        rw [hroots]
        simp
      exact {
        relative := hrel
        there := hthere
        root := ⟨roots, root, after', hroots, rfl, hmissing, within_join_iff hrel root⟩
        confined := fun hups => ⟨root, hmem, within_join hrel hups root⟩ }

/-- What a resolver finds is the resource behind a root, below which it need not stay if it goes
up: that is so whatever paths lead anywhere, and among files the path leads to its resolved
place. -/
theorem located_of_resolve {r : Resolver} {resource p : String} :
    (∀ {present : String → Bool}, r.search present resource = some p →
      Found r present resource p) ∧
    ∀ {files : Files}, r.resolve files resource = some p → Located r files resource p := by
  refine ⟨found_of_search, fun {files} h => ?_⟩
  have hfound := found_of_search h
  obtain ⟨e, he⟩ : ∃ e, files.lookup p = .ok e := by
    have hexists := hfound.there
    rw [Files.pathExists] at hexists
    split at hexists
    · next e he => exact ⟨e, he⟩
    · cases hexists
  exact { hfound with entry := ⟨e, he, Files.entryAt_of_lookup he⟩ }

/-- A resolver with two roots. -/
def shelves : Resolver := ⟨"a", "shelves", ["app", "lib/"]⟩

/-- Directories for both roots, a file below one of them, and a file outside of both. -/
def library : Files :=
  ⟨[(["app"], .directory), (["lib"], .directory), (["lib", "sub"], .directory),
    (["lib", "a.py"], .file "a".toUTF8), (["key"], .file "k".toUTF8)]⟩

/-- A resolver with a root that is absolute. -/
def vault : Resolver := ⟨"b", "vault", ["/srv/app"]⟩

/-- A resource that goes up and down, but not out, behind a relative root and an absolute one. -/
theorem located_of_resolve_winding :
    (shelves.resolve library "sub//.././a.py" = some "lib/sub//.././a.py" ∧
      Located shelves library "sub//.././a.py" "lib/sub//.././a.py" ∧
      (resolved "sub//.././a.py").ups = 0 ∧
      ∃ root ∈ shelves.roots, (resolved "lib/sub//.././a.py").Within (resolved root)) ∧
    vault.search (fun _ => true) "sub//.././a.py" = some "/srv/app/sub//.././a.py" ∧
      resolved "/srv/app/sub//.././a.py" = ⟨true, 0, ["a.py", "app", "srv"]⟩ ∧
      Found vault (fun _ => true) "sub//.././a.py" "/srv/app/sub//.././a.py" := by
  have hfound : shelves.resolve library "sub//.././a.py" = some "lib/sub//.././a.py" := by decide
  have hlocated := located_of_resolve.2 hfound
  have habsolute : vault.search (fun _ => true) "sub//.././a.py" =
      some "/srv/app/sub//.././a.py" := by decide
  exact ⟨⟨hfound, hlocated, by decide, hlocated.confined (by decide)⟩, habsolute, by decide,
    located_of_resolve.1 habsolute⟩

/-- A resource that leads out of both roots is found all the same, and its text can be read. -/
theorem found_outside :
    shelves.resolve library "../key" = some "app/../key" ∧
      library.readText "app/../key" = .ok "k" ∧
      resolved "app/../key" = ⟨false, 0, ["key"]⟩ ∧
      ¬ ∃ root ∈ shelves.roots, (resolved "app/../key").Within (resolved root) := by
  exact ⟨by decide, rfl, by decide, by decide⟩

end Resolver

end PinnedSessions
