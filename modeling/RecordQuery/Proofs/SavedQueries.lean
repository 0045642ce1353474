import Mathlib.Data.List.MinMax
import Mathlib.Data.String.Basic
import RecordQuery.Proofs.EditDistances
import RecordQuery.Settings.Decoding

/-!
# Saved queries

Saved queries stand in the order of their names. A name that is not among them is answered by the nearest
one, if one is near enough; of several that are equally near this is the first in the order of texts. If none
is near enough, the answer lists all of them or says that there are none.
-/

namespace RecordQuery

/-! ## The nearest candidate -/

namespace Text

section Nearest

variable {α : Type} {reach : Nat} {word : String} {spelling : α → String}
  {candidates : List α} {candidate : α}

/-- The candidate found is near enough, none is nearer, and those before it are further away. -/
theorem nearest?_eq_some_iff :
    let distance (candidate : α) :=
      editDistance word.toList (spelling candidate).toList
    nearest? reach word spelling candidates = some candidate ↔
      distance candidate ≤ reach ∧
      (∀ other ∈ candidates, distance candidate ≤ distance other) ∧
      ∃ before behind, candidates = before ++ candidate :: behind ∧
        ∀ other ∈ before, distance candidate < distance other := by
  intro distance
  simp only [nearest?, List.find?_eq_some_iff_append, Bool.and_eq_true,
    decide_eq_true_eq, List.all_eq_true, Bool.not_eq_true', Bool.and_eq_false_iff,
    decide_eq_false_iff_not, List.all_eq_false]
  constructor
  · rintro ⟨⟨near, least⟩, before, behind, whole, earlier⟩
    refine ⟨near, least, before, behind, whole, fun other member => ?_⟩
    rcases earlier other member with far | ⟨third, inAll, nearer⟩
    · exact Nat.lt_of_le_of_lt near (Nat.lt_of_not_le far)
    · exact Nat.lt_of_le_of_lt (least third inAll) (Nat.lt_of_not_le nearer)
  · rintro ⟨near, least, before, behind, whole, earlier⟩
    refine ⟨⟨near, least⟩, before, behind, whole, fun other member => ?_⟩
    have inAll : candidate ∈ candidates := by simp [whole]
    exact Or.inr ⟨candidate, inAll, Nat.not_le.mpr (earlier other member)⟩

/-- Nothing is found only if all candidates are too far away. -/
theorem nearest?_eq_none_iff :
    nearest? reach word spelling candidates = none ↔
      ∀ other ∈ candidates,
        reach < editDistance word.toList (spelling other).toList := by
  simp only [nearest?, List.find?_eq_none, Bool.and_eq_true,
    decide_eq_true_eq, List.all_eq_true, not_and]
  constructor
  · intro none other member
    let distance (candidate : α) :=
      editDistance word.toList (spelling candidate).toList
    cases chosen : candidates.argmin distance with
    | none =>
        rw [List.argmin_eq_none.mp chosen] at member
        cases member
    | some nearest =>
        have least : ∀ third ∈ candidates, distance nearest ≤ distance third :=
          fun third inAll => List.le_of_mem_argmin inAll chosen
        by_contra! near
        refine none nearest (List.argmin_mem chosen) ?_ least
        exact Nat.le_trans (least other member) near
  · intro far other member near
    exact absurd near (Nat.not_le.mpr (far other member))

end Nearest

end Text

/-! ## Order of the entries -/

namespace Settings

/-- The entries stand in the order of their names, and no name stands twice. -/
def InOrder (entries : List (String × String)) : Prop :=
  (entries.map Prod.fst).Pairwise (· < ·)

section Order

variable {entries : List (String × String)}

theorem mem_names_insertEntry {name query key : String} :
    key ∈ (insertEntry name query entries).map Prod.fst ↔
      key = name ∨ key ∈ entries.map Prod.fst := by
  induction entries with
  | nil => simp [insertEntry]
  | cons entry rest inductionHypothesis =>
      rw [insertEntry]
      split
      · next same => simp [same]
      · split
        · simp
        · rw [List.map_cons, List.mem_cons, inductionHypothesis,
            List.map_cons, List.mem_cons]
          exact or_left_comm

theorem inOrder_insertEntry (inOrder : InOrder entries)
    (name query : String) : InOrder (insertEntry name query entries) := by
  induction entries with
  | nil => exact List.pairwise_singleton _ _
  | cons entry rest inductionHypothesis =>
      have ⟨first, others⟩ := List.pairwise_cons.mp inOrder
      rw [insertEntry]
      split
      · next same =>
          subst same
          exact inOrder
      · next different =>
          split
          · next less =>
              refine List.pairwise_cons.mpr ⟨?_, inOrder⟩
              rintro key (_ | ⟨_, member⟩)
              · exact less
              · exact lt_trans less (first key member)
          · next notLess =>
              have greater : entry.1 < name :=
                lt_of_le_of_ne (not_lt.mp notLess) (Ne.symm different)
              refine List.pairwise_cons.mpr ⟨?_, inductionHypothesis others⟩
              intro key member
              rcases mem_names_insertEntry.mp member with rfl | member
              · exact greater
              · exact first key member

theorem inOrder_foldl_save (queries : List (String × String))
    (settings : Settings) (inOrder : InOrder settings.queries) :
    InOrder (queries.foldl
      (fun settings entry => settings.save entry.1 entry.2) settings).queries := by
  induction queries generalizing settings with
  | nil => exact inOrder
  | cons entry queries inductionHypothesis =>
      exact inductionHypothesis _ (inOrder_insertEntry inOrder entry.1 entry.2)

theorem inOrder_ofQueries (queries : List (String × String)) :
    InOrder (ofQueries queries).queries :=
  inOrder_foldl_save queries {} List.Pairwise.nil

/-- The queries that are read from a settings file stand in order. -/
theorem inOrder_of_ofText? {text : String} {settings : Settings}
    (read : ofText? text = some settings) : InOrder settings.queries := by
  simp only [ofText?, ofEntries?, Option.bind_eq_bind,
    Option.bind_eq_some_iff] at read
  obtain ⟨_, _, _, _, _, _, queries, _, usable⟩ := read
  split at usable
  · cases usable
    exact inOrder_ofQueries queries
  · cases usable

/-- Of a name there is at most one query. -/
theorem lookup_eq_some_iff (inOrder : InOrder entries)
    {name query : String} :
    entries.lookup name = some query ↔ (name, query) ∈ entries := by
  rw [List.lookup_eq_some_iff]
  constructor
  · rintro ⟨before, behind, rfl, _⟩
    simp
  · intro member
    obtain ⟨before, behind, rfl⟩ := List.append_of_mem member
    refine ⟨before, behind, rfl, fun other isBefore => ?_⟩
    rw [InOrder, List.map_append, List.pairwise_append] at inOrder
    have less : other.1 < name :=
      inOrder.2.2 other.1 (List.mem_map_of_mem isBefore) name (by simp)
    simpa using (ne_of_lt less).symm

end Order

/-! ## Answers -/

section Answers

/-- The number of edits between the name that is asked for and the name of a saved query. -/
def distance (name key : String) : Nat :=
  Text.editDistance name.toList key.toList

/-- The saved query to offer for a name: near enough, with none nearer, and the first of those in the order
of texts. -/
structure IsSuggestion (name : String) (keys : List String)
    (key : String) : Prop where
  saved : key ∈ keys
  near : distance name key ≤ 3
  least : ∀ other ∈ keys, distance name key ≤ distance name other
  first : ∀ other ∈ keys, distance name other = distance name key →
    key ≤ other

variable {name key : String} {keys : List String}

theorem querySuggestion?_eq_some_iff (inOrder : keys.Pairwise (· < ·)) :
    querySuggestion? name keys = some key ↔ IsSuggestion name keys key := by
  refine Text.nearest?_eq_some_iff.trans ?_
  constructor
  · rintro ⟨near, least, before, behind, rfl, further⟩
    refine ⟨by simp, near, least, fun other member same => ?_⟩
    rcases List.mem_append.mp member with isBefore | notBefore
    · have less := further other isBefore
      exact absurd same (Nat.ne_of_gt less)
    · have ⟨greater, _⟩ :=
        List.pairwise_cons.mp (List.pairwise_append.mp inOrder).2.1
      rcases List.mem_cons.mp notBefore with rfl | isBehind
      · exact le_rfl
      · exact le_of_lt (greater other isBehind)
  · rintro ⟨saved, near, least, first⟩
    obtain ⟨before, behind, rfl⟩ := List.append_of_mem saved
    refine ⟨near, least, before, behind, rfl, fun other isBefore => ?_⟩
    have member : other ∈ before ++ key :: behind :=
      List.mem_append_left _ isBefore
    have less : other < key :=
      (List.pairwise_append.mp inOrder).2.2 other isBefore key (by simp)
    refine lt_of_le_of_ne (least other member) fun same => ?_
    exact absurd less (not_lt.mpr (first other member same.symm))

theorem querySuggestion?_eq_none_iff :
    querySuggestion? name keys = none ↔ ∀ key ∈ keys, 3 < distance name key :=
  Text.nearest?_eq_none_iff

/-- Some saved query is offered just if one is near enough. -/
theorem exists_isSuggestion_iff (inOrder : keys.Pairwise (· < ·)) :
    (∃ key, IsSuggestion name keys key) ↔
      ∃ key ∈ keys, distance name key ≤ 3 := by
  constructor
  · rintro ⟨key, suggested⟩
    exact ⟨key, suggested.saved, suggested.near⟩
  · rintro ⟨key, member, near⟩
    cases found : querySuggestion? name keys with
    | none =>
        have far := querySuggestion?_eq_none_iff.mp found key member
        omega
    | some nearest =>
        exact ⟨nearest, (querySuggestion?_eq_some_iff inOrder).mp found⟩

section Hints

-- The third letter of a hint tells it from the others.

theorem letter_offer (key : String) :
    s!". Did you mean '{key}'?".toList[2]? = some 'D' := by
  change (". Did you mean '" ++ key ++ "'?").toList[2]? = some 'D'
  simp

theorem letter_list (keys : List String) :
    (". Saved queries: " ++ ", ".intercalate keys).toList[2]? = some 'S' := by
  simp

theorem list_ne_offer (keys : List String) (key : String) :
    ". Saved queries: " ++ ", ".intercalate keys ≠
      s!". Did you mean '{key}'?" := by
  intro same
  have letter := congrArg (·.toList[2]?) same
  cases (letter_list keys).symm.trans (letter.trans (letter_offer key))

theorem nothing_ne_offer (key : String) :
    ". No queries are saved in the config file" ≠
      s!". Did you mean '{key}'?" := by
  intro same
  have letter := congrArg (·.toList[2]?) same
  cases letter.trans (letter_offer key)

theorem nothing_ne_list (keys : List String) :
    ". No queries are saved in the config file" ≠
      ". Saved queries: " ++ ", ".intercalate keys := by
  intro same
  have letter := congrArg (·.toList[2]?) same
  cases letter.trans (letter_list keys)

end Hints

/-- A saved query is offered just if it is the one found. -/
theorem unknownQueryHint_eq_offer_iff :
    unknownQueryHint name keys = s!". Did you mean '{key}'?" ↔
      querySuggestion? name keys = some key := by
  rw [unknownQueryHint]
  cases querySuggestion? name keys with
  | some nearest =>
      constructor
      · intro same
        have behind := (String.append_left_inj _).mp same
        exact congrArg some ((String.append_right_inj _).mp behind)
      · rintro ⟨⟩
        rfl
  | none =>
      refine iff_of_false ?_ (by simp)
      cases keys with
      | nil => exact nothing_ne_offer key
      | cons => exact list_ne_offer _ key

/-- That no queries are saved is said just if it is so. -/
theorem unknownQueryHint_eq_nothing_iff :
    unknownQueryHint name keys = ". No queries are saved in the config file" ↔
      keys = [] := by
  cases keys with
  | nil => exact iff_of_true rfl rfl
  | cons first others =>
      refine iff_of_false ?_ (List.cons_ne_nil _ _)
      rw [unknownQueryHint]
      cases querySuggestion? name (first :: others) with
      | some nearest => exact (nothing_ne_offer nearest).symm
      | none => exact (nothing_ne_list _).symm

/-- The saved queries are listed just if there are some and none is found. -/
theorem unknownQueryHint_eq_list_iff :
    unknownQueryHint name keys = ". Saved queries: " ++ ", ".intercalate keys ↔
      keys ≠ [] ∧ querySuggestion? name keys = none := by
  rw [unknownQueryHint]
  cases querySuggestion? name keys with
  | some nearest => exact iff_of_false (list_ne_offer keys nearest).symm (by simp)
  | none =>
      cases keys with
      | nil => exact iff_of_false (nothing_ne_list []) (by simp)
      | cons first others => exact iff_of_true rfl ⟨List.cons_ne_nil _ _, rfl⟩

/-- A saved query is given just for its name. Any other name is answered by exactly one of three texts: one
offers the saved query that is nearest, if one is near enough, one says that none are saved, and one lists
them in their order. -/
theorem savedQuery_of_inOrder {settings : Settings}
    (inOrder : InOrder settings.queries) (name : String) :
    let keys := settings.queries.map Prod.fst
    (∀ key, Text.IsDistance name.toList key.toList (distance name key)) ∧
    (∀ query, settings.savedQuery name = .ok query ↔
      (name, query) ∈ settings.queries) ∧
    (name ∉ keys → ∃ error, settings.savedQuery name = .error error ∧
      (∀ key, error.message =
          s!"Unknown saved query '{name}'" ++ s!". Did you mean '{key}'?" ↔
        IsSuggestion name keys key) ∧
      ((∃ key, IsSuggestion name keys key) ↔
        ∃ key ∈ keys, distance name key ≤ 3) ∧
      (error.message = s!"Unknown saved query '{name}'" ++
          ". No queries are saved in the config file" ↔
        keys = []) ∧
      (error.message = s!"Unknown saved query '{name}'" ++
          (". Saved queries: " ++ ", ".intercalate keys) ↔
        keys ≠ [] ∧ ∀ key ∈ keys, 3 < distance name key) ∧
      keys.Pairwise (· < ·)) := by
  intro keys
  refine ⟨fun key => Text.isDistance_editDistance _ _, fun query => ?_, ?_⟩
  · rw [← lookup_eq_some_iff inOrder, savedQuery]
    cases settings.queries.lookup name <;> simp
  · intro unknown
    have absent : settings.queries.lookup name = none := by
      rw [List.lookup_eq_none_iff]
      intro entry member
      have different : name ≠ entry.1 :=
        fun same => unknown (same ▸ List.mem_map_of_mem member)
      simpa using different
    refine ⟨.unknownQuery name keys, by rw [savedQuery, absent],
      fun key => ?_, exists_isSuggestion_iff inOrder, ?_, ?_, inOrder⟩
    · exact (String.append_right_inj _).trans (unknownQueryHint_eq_offer_iff.trans
        (querySuggestion?_eq_some_iff inOrder))
    · exact (String.append_right_inj _).trans unknownQueryHint_eq_nothing_iff
    · exact (String.append_right_inj _).trans (unknownQueryHint_eq_list_iff.trans
        (and_congr_right fun _ => querySuggestion?_eq_none_iff))

/-- Two names are one edit away, and the first of them in their order is offered. -/
theorem savedQuery_of_inOrder_tie :
    let settings := ofQueries [("mine", "+m"), ("car", "%d"), ("bar", "%m")]
    InOrder settings.queries ∧
    ∃ error, settings.savedQuery "aar" = .error error ∧
      error.message = "Unknown saved query 'aar'. Did you mean 'bar'?" := by
  intro settings
  have inOrder : InOrder settings.queries := inOrder_ofQueries _
  obtain ⟨_, _, answer⟩ := savedQuery_of_inOrder inOrder "aar"
  obtain ⟨error, failed, offers, _⟩ := answer (by decide)
  refine ⟨inOrder, error, failed, (offers "bar").mpr ?_⟩
  exact ⟨by decide, by decide, by decide, by decide⟩

end Answers

end Settings

end RecordQuery
