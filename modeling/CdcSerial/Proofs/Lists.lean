import Mathlib.Algebra.GroupWithZero.Nat
import Mathlib.Data.List.Nodup
import Mathlib.Data.List.SplitLengths

/-!
# Lists of parties

The parties of a connection, its callers, reads, writes and sessions, stand in lists and are known
by their places. What one step does is mostly a change at one place of such a list. The lemmas here
say what this does to counts, images and concatenations, for any elements.
-/

namespace CdcSerial

section Counting

variable {Element : Type} {test : Element → Bool} {list : List Element}

theorem countP_concat (new : Element) :
    (list ++ [new]).countP test = list.countP test + (test new).toNat := by
  cases held : test new <;> simp [List.countP_append, held]

theorem countP_set_add {place : Nat} {old : Element} (new : Element)
    (found : list[place]? = some old) :
    (list.set place new).countP test + (test old).toNat =
      list.countP test + (test new).toNat := by
  rcases List.getElem?_eq_some_iff.mp found with ⟨inside, rfl⟩
  rw [List.countP_set inside]
  have counted : (test list[place]).toNat ≤ list.countP test := by
    cases held : test list[place] with
    | false => simp
    | true => simpa using List.countP_pos_iff.mpr ⟨_, List.getElem_mem inside, held⟩
  cases old : test list[place] <;> cases test new <;> simp_all

/-- Two places of a list that both pass a test count twice. -/
theorem countP_two_places {first second : Nat} {one other : Element} (ne : first ≠ second)
    (found : list[first]? = some one) (foundToo : list[second]? = some other)
    (passes : test one = true) (passesToo : test other = true) : 2 ≤ list.countP test := by
  induction list generalizing first second with
  | nil => cases found
  | cons head rest ih =>
      cases first with
      | zero =>
          cases second with
          | zero => contradiction
          | succ second =>
              cases found
              have later : 0 < rest.countP test :=
                List.countP_pos_iff.mpr ⟨other, List.mem_of_getElem? foundToo, passesToo⟩
              rw [List.countP_cons_of_pos passes]
              omega
      | succ first =>
          cases second with
          | zero =>
              cases foundToo
              have later : 0 < rest.countP test :=
                List.countP_pos_iff.mpr ⟨one, List.mem_of_getElem? found, passes⟩
              rw [List.countP_cons_of_pos passesToo]
              omega
          | succ second =>
              have later := ih (by omega) found foundToo
              rw [List.countP_cons]
              omega

/-- If no two places of a list pass a test, at most one does. -/
theorem countP_le_one
    (only : ∀ (first second : Nat) (one other : Element), list[first]? = some one →
      list[second]? = some other → test one = true → test other = true → second = first) :
    list.countP test ≤ 1 := by
  induction list with
  | nil => simp
  | cons head tail ih =>
      rw [List.countP_cons]
      by_cases passes : test head = true
      · have others : tail.countP test = 0 := by
          rw [List.countP_eq_zero]
          intro element member passesToo
          rcases List.getElem?_of_mem member with ⟨place, found⟩
          exact absurd (only 0 (place + 1) head element rfl found passes passesToo) (by omega)
        simp [others, passes]
      · simp only [passes, Bool.false_eq_true, if_false, Nat.add_zero]
        apply ih
        intro first second one other firstFound secondFound firstPasses secondPasses
        have same := only (first + 1) (second + 1) one other firstFound secondFound firstPasses
          secondPasses
        omega

theorem sum_set_add {list : List Nat} {place old : Nat} (new : Nat)
    (found : list[place]? = some old) : (list.set place new).sum + old = list.sum + new := by
  induction list generalizing place with
  | nil => simp at found
  | cons first rest ih =>
      cases place with
      | zero =>
          simp only [List.getElem?_cons_zero, Option.some.injEq] at found
          simp only [List.set_cons_zero, List.sum_cons, found]
          omega
      | succ place =>
          simp only [List.getElem?_cons_succ] at found
          have moved := ih found
          simp only [List.set_cons_succ, List.sum_cons]
          omega

/-- The element at a place among those that pass a test stands behind as many that pass. -/
theorem exists_split_of_filter {place : Nat} {element : Element}
    (found : (list.filter test)[place]? = some element) :
    ∃ before after, list = before ++ element :: after ∧ test element = true ∧
      before.countP test = place := by
  induction list generalizing place with
  | nil => simp at found
  | cons head tail ih =>
      by_cases passes : test head = true
      · rw [List.filter_cons_of_pos passes] at found
        cases place with
        | zero =>
            cases found
            exact ⟨[], tail, rfl, passes, rfl⟩
        | succ place =>
            rcases ih found with ⟨before, after, rfl, holds, count⟩
            exact ⟨head :: before, after, rfl, holds, by simp [passes, count]⟩
      · rw [List.filter_cons_of_neg passes] at found
        rcases ih found with ⟨before, after, rfl, holds, count⟩
        exact ⟨head :: before, after, rfl, holds, by simp [passes, count]⟩

/-- Elements that pass a test stand at one place if as many that pass stand before them. -/
theorem split_unique {first second rest other : List Element} {one two : Element}
    (same : first ++ one :: rest = second ++ two :: other) (onePasses : test one = true)
    (twoPasses : test two = true) (count : first.countP test = second.countP test) :
    first = second := by
  rcases List.append_eq_append_iff.mp same with ⟨between, rfl, eq⟩ | ⟨between, rfl, eq⟩
  · cases between with
    | nil => simp
    | cons head tail =>
        cases eq
        simp [onePasses] at count
  · cases between with
    | nil => simp
    | cons head tail =>
        cases eq
        simp [twoPasses] at count

end Counting

section Changing

variable {Element Image : Type} {list : List Element} {place : Nat} {change : Element → Element}

theorem modify_eq_set {old : Element} (found : list[place]? = some old)
    (change : Element → Element) : list.modify place change = list.set place (change old) := by
  simp [List.modify_eq_set_getElem?, found]

/-- Changes at two places can be made in any order, if they can be at one. -/
theorem modify_comm {first second : Element → Element}
    (agree : ∀ element, first (second element) = second (first element)) (here there : Nat)
    (list : List Element) :
    (list.modify here first).modify there second =
      (list.modify there second).modify here first := by
  by_cases same : here = there
  · subst same
    rw [List.modify_modify_eq, List.modify_modify_eq]
    congr 1
    funext element
    exact (agree element).symm
  · exact List.modify_modify_ne first second list same

theorem modify_concat (inside : place < list.length) (change : Element → Element)
    (last : Element) :
    (list ++ [last]).modify place change = list.modify place change ++ [last] := by
  apply List.ext_getElem?
  intro other
  rw [List.getElem?_modify, List.getElem?_append, List.getElem?_append, List.length_modify]
  by_cases early : other < list.length
  · simp only [early, if_true, List.getElem?_modify]
  · have apart : place ≠ other := by omega
    simp [early, apart]

theorem forall_mem_modify {holds : Element → Prop} (place : Nat)
    (all : ∀ element ∈ list, holds element)
    (keeps : ∀ element ∈ list, holds element → holds (change element)) :
    ∀ element ∈ list.modify place change, holds element := by
  intro element member
  rcases List.getElem?_of_mem member with ⟨other, found⟩
  rw [List.getElem?_modify] at found
  rcases Option.map_eq_some_iff.mp found with ⟨old, oldFound, rfl⟩
  have oldMember := List.mem_of_getElem? oldFound
  split
  · exact keeps old oldMember (all old oldMember)
  · exact all old oldMember

theorem map_modify (list : List Element) (place : Nat) {view : Element → Image}
    {changed : Image → Image} (agree : ∀ element, view (change element) = changed (view element)) :
    (list.modify place change).map view = (list.map view).modify place changed := by
  apply List.ext_getElem?
  intro other
  simp only [List.getElem?_map, List.getElem?_modify]
  cases list[other]? with
  | none => rfl
  | some element => by_cases here : place = other <;> simp [here, agree]

theorem map_modify_of_eq (list : List Element) (place : Nat) {view : Element → Image}
    (same : ∀ element, view (change element) = view element) :
    (list.modify place change).map view = list.map view := by
  have moved : (list.modify place change).map view = (list.map view).modify place id :=
    map_modify list place same
  rw [moved, List.modify_id]

theorem countP_modify_of_eq {test : Element → Bool} (place : Nat)
    (same : ∀ element, test (change element) = test element) :
    (list.modify place change).countP test = list.countP test := by
  have counted (list : List Element) : list.countP test = (list.map test).countP id := by
    rw [List.countP_map, Function.id_comp]
  rw [counted, counted, map_modify_of_eq list place same]

theorem countP_modify_add {test : Element → Bool} {old : Element}
    (found : list[place]? = some old) :
    (list.modify place change).countP test + (test old).toNat =
      list.countP test + (test (change old)).toNat := by
  rw [modify_eq_set found]
  exact countP_set_add _ found

end Changing

section Joining

variable {Element Image : Type} {list : List Element} {place : Nat} {view : Element → List Image}

theorem flatMap_split {old : Element} (found : list[place]? = some old) :
    list.flatMap view = (list.take place).flatMap view ++
      (view old ++ (list.drop (place + 1)).flatMap view) := by
  rcases List.getElem?_eq_some_iff.mp found with ⟨inside, rfl⟩
  rw [← List.flatMap_cons, ← List.flatMap_append, List.getElem_cons_drop, List.take_append_drop]

theorem flatMap_set {old : Element} (found : list[place]? = some old) (new : Element) :
    (list.set place new).flatMap view = (list.take place).flatMap view ++
      (view new ++ (list.drop (place + 1)).flatMap view) := by
  rcases List.getElem?_eq_some_iff.mp found with ⟨inside, -⟩
  rw [List.set_eq_take_append_cons_drop, if_pos inside, List.flatMap_append, List.flatMap_cons]

theorem flatMap_of_map_eq {other : List Element} (same : other.map view = list.map view) :
    other.flatMap view = list.flatMap view := by
  rw [List.flatMap_def, List.flatMap_def, same]

theorem splitLengths_of_append (pieces : List (List Element)) (rest : List Element) :
    (pieces.map List.length).splitLengths (pieces.flatten ++ rest) = pieces := by
  induction pieces with
  | nil => rfl
  | cons piece pieces ih => simp [List.splitLengths_cons, ih]

end Joining

section Places

variable {Element : Type}

theorem getElem?_concat_cases {items : List Element} {latest found : Element} {place : Nat}
    (there : (items ++ [latest])[place]? = some found) :
    place < items.length ∧ items[place]? = some found ∨
      place = items.length ∧ found = latest := by
  rcases Nat.lt_or_ge place items.length with before | behind
  · rw [List.getElem?_append_left before] at there
    exact .inl ⟨before, there⟩
  · rw [List.getElem?_append_right behind, List.getElem?_singleton] at there
    rcases Option.ite_none_right_eq_some.mp there with ⟨here, same⟩
    exact .inr ⟨by omega, (Option.some.inj same).symm⟩

/-- An element that is not among the later ones stands where it stood before. -/
theorem getElem?_of_grown {list more : List Element} {place : Nat} {element : Element}
    (elsewhere : element ∉ more) (there : (list ++ more)[place]? = some element) :
    list[place]? = some element := by
  rw [List.getElem?_append] at there
  split at there
  · exact there
  · exact absurd (List.mem_of_getElem? there) elsewhere

theorem eq_of_filterMap_nodup {Image : Type} {image? : Element → Option Image}
    {list : List Element} (distinct : (list.filterMap image?).Nodup) {one other : Element}
    {image : Image} (first : one ∈ list) (second : other ∈ list) (maps : image? one = some image)
    (mapsToo : image? other = some image) : one = other := by
  rcases List.append_of_mem first with ⟨before, after, rfl⟩
  rw [List.filterMap_append, List.filterMap_cons_some maps, List.nodup_middle, List.nodup_cons,
    ← List.filterMap_append] at distinct
  by_contra ne
  refine distinct.1 (List.mem_filterMap.mpr ⟨other, ?_, mapsToo⟩)
  simpa [Ne.symm ne] using second

variable (past now : List Element) (place : Nat)

theorem getElem?_behind : (past ++ now)[past.length + place]? = now[place]? := by
  rw [List.getElem?_append_right (Nat.le_add_right ..), Nat.add_sub_cancel_left]

theorem set_behind (element : Element) :
    (past ++ now).set (past.length + place) element = past ++ now.set place element := by
  simp [List.set_append_right]

theorem modify_behind (change : Element → Element) :
    (past ++ now).modify (past.length + place) change = past ++ now.modify place change := by
  induction past with
  | nil => simp
  | cons first rest ih =>
      have next : (first :: rest).length + place = (rest.length + place) + 1 := by
        simp only [List.length_cons]
        omega
      rw [next, List.cons_append, List.modify_succ_cons, ih, List.cons_append]

end Places

end CdcSerial
