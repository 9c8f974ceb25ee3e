import FieldMenu.Proofs.Value.Spelling
import FieldMenu.Proofs.Value.Token

namespace FieldMenu

open Text

namespace CountTable

theorem lookup_cons (known : String) (count : Nat) (rest : CountTable) (form : String) :
    List.lookup form ((known, count) :: rest) =
      if form = known then some count else rest.lookup form := by
  by_cases same : form = known
  · rw [if_pos same, same, List.lookup_cons_self]
  · rw [if_neg same, List.lookup_cons, beq_false_of_ne same]

theorem lookup_increment (table : CountTable) (key form : String) :
    (table.increment key).lookup form =
      if form = key then some ((table.lookup key).getD 0 + 1) else table.lookup form := by
  induction table with
  | nil => exact lookup_cons key 1 [] form
  | cons entry rest ih =>
      obtain ⟨known, count⟩ := entry
      rw [increment, lookup_cons known count rest key, lookup_cons known count rest form]
      by_cases same : key = known
      · subst same
        rw [if_pos rfl, if_pos rfl, lookup_cons]
        split <;> rfl
      · rw [if_neg (Ne.symm same), if_neg same, lookup_cons, ih]
        by_cases sameForm : form = known
        · rw [if_pos sameForm, if_pos sameForm, sameForm, if_neg (Ne.symm same)]
        · rw [if_neg sameForm, if_neg sameForm]

end CountTable

namespace Tally

/-- What a tally knows of the values that it has met. -/
structure Knows (tally : Tally) (values : List String) : Prop where
  spellings : tally.spellings = firstSpellings values
  /-- A form comes into the table with its first occurrence. -/
  lookup : ∀ form, tally.counts.lookup form =
    if countForm form values = 0 then none else some (countForm form values)

section

variable {tally : Tally} {values : List String}

theorem knows_nil : Knows {} [] :=
  ⟨rfl, fun _ => rfl⟩

theorem Knows.count (knows : tally.Knows values) (value : String) :
    tally.counts.count value = countForm (lowered value) values := by
  rw [CountTable.count, knows.lookup]
  by_cases absent : countForm (lowered value) values = 0
  · rw [if_pos absent, absent]
    rfl
  · rw [if_neg absent]
    rfl

theorem Knows.add (knows : tally.Knows values) (value : String) :
    (tally.add value).Knows (values ++ [value]) := by
  constructor
  · rw [firstSpellings_concat, Tally.add, knows.spellings, knows.count, addSpelling,
      any_firstSpellings]
    -- A value is new where its form has not been counted yet.
    by_cases new : countForm (lowered value) values = 0
    · rw [if_pos new, countForm_eq_zero_iff.mp new, if_neg Bool.false_ne_true]
    · have known : (values.any fun known => sameIgnoringCase known value) = true :=
        eq_true_of_ne_false (mt countForm_eq_zero_iff.mpr new)
      rw [if_neg new, if_pos known]
  · intro form
    rw [Tally.add, CountTable.lookup_increment, ← CountTable.count, knows.count, countForm_concat]
    by_cases same : lowered value = form
    · subst same
      rw [if_pos rfl, if_pos rfl, if_neg (Nat.succ_ne_zero _)]
    · rw [if_neg (Ne.symm same), if_neg same, Nat.add_zero, knows.lookup]

theorem Knows.addAll (knows : tally.Knows values) (more : List String) :
    (more.foldl Tally.add tally).Knows (values ++ more) := by
  induction more generalizing tally values with
  | nil => rwa [List.append_nil]
  | cons value more ih =>
      rw [List.append_cons]
      exact ih (knows.add value)

end

theorem knows_ofValues (values : List String) : (ofValues values).Knows values :=
  knows_nil.addAll values

end Tally

theorem lookup_tokenCounts (tokens : List String) (form : String) :
    (tokenCounts tokens).lookup form =
      if countForm form tokens = 0 then none else some (countForm form tokens) :=
  (Tally.knows_ofValues tokens).lookup form

/-- What a list of candidates has to do with the tokens of the field. -/
structure Gathered (field : String) (library : List Record) (candidates : List String) : Prop where
  /-- A token stands in the list in one spelling and not in two. -/
  once : ∀ record ∈ library, ∀ token ∈ Token.listOf (record.field? field),
    countForm (lowered token) candidates = 1
  /-- No token in front of the one that gave the spelling agrees with it. -/
  firstSeen : ∀ candidate ∈ candidates, ∃ before after,
    fieldTokens field library = before ++ candidate :: after ∧
      ∀ token ∈ before, sameIgnoringCase token candidate = false

namespace Item

section

variable {item : Item}

theorem candidates_of_field (sourced : item.valueSource = .field) (order : SortOrder)
    (library : List Record) :
    item.candidates order library =
      order.sort (some (tokenCounts (fieldTokens item.fieldName library)))
        (firstSpellings (fieldTokens item.fieldName library)) := by
  rw [candidates, sourced, ← (Tally.knows_ofValues _).spellings]

theorem gathered_candidates (sourced : item.valueSource = .field) (order : SortOrder)
    (library : List Record) :
    Gathered item.fieldName library (item.candidates order library) := by
  have perm := order.perm_sort (some (tokenCounts (fieldTokens item.fieldName library)))
    (firstSpellings (fieldTokens item.fieldName library))
  rw [candidates_of_field sourced]
  constructor
  · intro record inLibrary token held
    have occurs : token ∈ fieldTokens item.fieldName library :=
      List.mem_flatMap.mpr ⟨record, inLibrary, held⟩
    rw [countForm, perm.countP_eq, ← countForm,
      countForm_of_distinctNames (distinctNames_firstSpellings _), any_firstSpellings,
      any_of_mem occurs, if_pos rfl]
  · exact fun candidate member => exists_of_mem_firstSpellings (perm.mem_iff.mp member)

theorem isToken_of_mem_candidates (sourced : item.valueSource = .field) {order : SortOrder}
    {library : List Record} {token : String} (member : token ∈ item.candidates order library) :
    Token.IsToken token := by
  rw [candidates_of_field sourced, SortOrder.mem_sort] at member
  obtain ⟨record, _, held⟩ := List.mem_flatMap.mp ((firstSpellings_sublist _).subset member)
  exact Token.isToken_of_mem_listOf held

theorem map_lowered_candidates_of_perm {order : SortOrder} (sorts : order ≠ .unsorted)
    (sourced : item.valueSource = .field) {library other : List Record}
    (perm : library.Perm other) :
    (item.candidates order library).map lowered = (item.candidates order other).map lowered := by
  have tokens : (fieldTokens item.fieldName library).Perm (fieldTokens item.fieldName other) :=
    perm.flatMap_right _
  have lookups (form : String) :
      (tokenCounts (fieldTokens item.fieldName library)).lookup form =
        (tokenCounts (fieldTokens item.fieldName other)).lookup form := by
    rw [lookup_tokenCounts, lookup_tokenCounts, countForm, countForm, tokens.countP_eq]
  rw [candidates_of_field sourced, candidates_of_field sourced]
  refine SortOrder.map_lowered_sort_congr sorts (fun form => ?_)
    (perm_map_lowered_firstSpellings tokens)
  cases order with
  | unsorted | alphabetical | reverseAlphabetical => rfl
  | mostCommon | leastCommon => rw [SortOrder.rank, SortOrder.rank, lookups]

end

/-- The values gathered from a field of the library are its tokens, each once and as it was first
seen; the table holds how often each occurs, and nothing else; and sorted values do not depend on
the order of the records. -/
theorem candidates_gathered (item : Item) (sourced : item.valueSource = .field)
    (order : SortOrder) (library : List Record) :
    Gathered item.fieldName library (item.candidates order library) ∧
      (∀ form, (tokenCounts (fieldTokens item.fieldName library)).lookup form =
        if countForm form (fieldTokens item.fieldName library) = 0 then none
        else some (countForm form (fieldTokens item.fieldName library))) ∧
      (order ≠ .unsorted → ∀ other : List Record, library.Perm other →
        (item.candidates order library).map lowered =
          (item.candidates order other).map lowered) :=
  ⟨gathered_candidates sourced order library, lookup_tokenCounts _,
    fun sorts _ perm => map_lowered_candidates_of_perm sorts sourced perm⟩

/-- Two records that spell a token in two ways: with the other record in front the other spelling is
offered, at the same place. -/
theorem candidates_gathered_respelled :
    let doom : Record :=
      { id := "1", title := "Doom", customFields := [{ name := "Mode", value := "Solo; Co-op" }] }
    let quake : Record :=
      { id := "2", title := "Quake"
        customFields := [{ name := "mode", value := "co-op;LAN; lan ;LAN" }] }
    let item : Item := { fieldName := "MODE", menuLabel := "Mode", valueSource := .field }
    item.candidates .mostCommon [doom, quake] = ["LAN", "Co-op", "Solo"] ∧
      (item.candidates .mostCommon [quake, doom]).map lowered = ["lan", "co-op", "solo"] ∧
      "co-op" ∈ item.candidates .mostCommon [quake, doom] ∧
      (tokenCounts (fieldTokens "MODE" [doom, quake])).lookup "lan" = some 3 := by
  intro doom quake item
  obtain ⟨-, counts, places⟩ := candidates_gathered item rfl .mostCommon [doom, quake]
  have candidates : item.candidates .mostCommon [doom, quake] = ["LAN", "Co-op", "Solo"] := by
    have sorts : SortOrder.mostCommon ≠ .unsorted := nofun
    have perm : (firstSpellings (fieldTokens "MODE" [doom, quake])).Perm
        ["LAN", "Co-op", "Solo"] := by decide
    rw [candidates_of_field rfl, SortOrder.sort_eq_of_perm sorts _ perm]
    exact List.mergeSort_of_pairwise (by decide)
  have swapped := places nofun [quake, doom] (List.Perm.swap _ _ _)
  rw [candidates] at swapped
  refine ⟨candidates, swapped.symm, ?_, (counts "lan").trans (by decide)⟩
  rw [candidates_of_field rfl, SortOrder.mem_sort]
  decide

end Item

end FieldMenu
