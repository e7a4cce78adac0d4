import ApiProbe.Proofs.Attempt
import ApiProbe.Rule.Book
import Mathlib.Data.List.Nodup

/-!
Merging rules into a book. The loops that test the rules, give them ids and look for an id that
comes twice leave the book alone; only then each rule is put in its place. Where no two ids are the
same, all of that comes to one look at every rule of the book and one at every rule that comes in.
-/
namespace ApiProbe.RuleBook
open Attempt
variable {supply : Supply} {rules incoming ready : List Rule} {rule : Rule} {id : String}

def ids (rules : List Rule) : List String := rules.map Rule.id

theorem any_id_iff : (rules.any fun other => other.id == id) = true ↔ id ∈ ids rules := by
  simp [ids]

theorem contains_eq (book : RuleBook) (id : String) :
    book.contains id = decide (id ∈ ids book.rules) :=
  Bool.eq_iff_iff.mpr (any_id_iff.trans decide_eq_true_iff.symm)

/-- Gives new ids to the rules that have none. -/
def withIds (supply : Supply) : List Rule → List Rule × Supply
  | [] => ([], supply)
  | rule :: rest =>
    let (first, left) := rule.withId supply
    let (others, last) := withIds left rest
    (first :: others, last)

/-- Rules are ready if every one is valid, and then they differ from what came in by new ids only. -/
theorem prepare_eq_ok_iff {result : List Rule × Supply} : prepare supply incoming = .ok result ↔
    (∀ rule ∈ incoming, rule.validate = .ok ()) ∧ withIds supply incoming = result := by
  induction incoming generalizing supply result with
  | nil => simp [prepare, withIds]
  | cons rule rest ih =>
    rw [prepare, test_eq_ok_iff]
    simp only [bind_eq_ok_iff, pure_eq_ok_iff, ih, List.forall_mem_cons, withIds]
    constructor
    · rintro ⟨valid, _, ⟨others, rfl⟩, rfl⟩
      exact ⟨⟨valid, others⟩, rfl⟩
    · rintro ⟨⟨valid, others⟩, rfl⟩
      exact ⟨valid, _, ⟨others, rfl⟩, rfl⟩

theorem repeatedId?_eq_none_iff {before : List String} : repeatedId? before rules = none ↔
    (ids rules).Nodup ∧ ∀ id ∈ ids rules, id ∉ before := by
  induction rules generalizing before with
  | nil => simp [repeatedId?, ids]
  | cons rule rest ih =>
    simp only [repeatedId?, ids, List.map_cons, List.nodup_cons, List.forall_mem_cons] at ih ⊢
    by_cases seen : rule.id ∈ before
    · simp [seen]
    · rw [if_neg (by simpa using seen), ih]
      simp only [List.mem_cons, not_or]
      grind

/-- A merge is done exactly if all rules are valid and no id comes twice, and then it puts one rule
after the other in its place. -/
theorem merge_eq_ok_iff {book : RuleBook} {result : RuleBook × Supply} :
    book.merge supply incoming = .ok result ↔
      (∀ rule ∈ incoming, rule.validate = .ok ()) ∧ (ids (withIds supply incoming).1).Nodup ∧
        (⟨(withIds supply incoming).1.foldl place book.rules⟩, (withIds supply incoming).2) =
          result := by
  have distinct_iff : repeatedId? [] (withIds supply incoming).1 = none ↔
      (ids (withIds supply incoming).1).Nodup := by
    simp [repeatedId?_eq_none_iff]
  simp only [merge, bind_eq_ok_iff, prepare_eq_ok_iff, ← distinct_iff]
  constructor
  · rintro ⟨_, ⟨valid, rfl⟩, done⟩
    refine ⟨valid, ?_⟩
    split at done
    · exact absurd done throw_ne_ok
    · rename_i none
      exact ⟨none, pure_eq_ok_iff.mp done⟩
  · rintro ⟨valid, none, rfl⟩
    refine ⟨_, ⟨valid, rfl⟩, ?_⟩
    simp only [none]
    rfl

/-- A change to the first rule with an id is one to all rules with it, if ids do not come twice. -/
theorem modifyFirst_eq_map {change : Rule → Rule} (distinct : (ids rules).Nodup) :
    modifyFirst id change rules = rules.map fun rule => if rule.id == id then change rule else rule := by
  induction rules with
  | nil => rfl
  | cons rule rest ih =>
    obtain ⟨new, distinct⟩ := List.nodup_cons.mp distinct
    simp only [modifyFirst, List.map_cons]
    split
    · rename_i found
      have others : ∀ other ∈ rest, (if other.id == id then change other else other) = other := by
        intro other member
        rw [if_neg]
        intro same
        rw [beq_iff_eq] at found same
        exact new (found.trans same.symm ▸ List.mem_map_of_mem member)
      rw [List.map_congr_left others, List.map_id']
    · rw [ih distinct]

theorem ids_modifyFirst {change : Rule → Rule} (kept : ∀ rule : Rule, rule.id = id →
    (change rule).id = id) (rules : List Rule) : ids (modifyFirst id change rules) = ids rules := by
  induction rules with
  | nil => rfl
  | cons rule rest ih =>
    simp only [modifyFirst]
    split
    · rename_i found
      have same := beq_iff_eq.mp found
      simp [ids, kept rule same, same]
    · simpa only [ids, List.map_cons, List.cons.injEq, true_and] using ih

theorem place_of_mem (found : rule.id ∈ ids rules) :
    place rules rule = modifyFirst rule.id (fun _ => rule) rules :=
  if_pos (any_id_iff.mpr found)

theorem place_of_not_mem (new : rule.id ∉ ids rules) : place rules rule = rules ++ [rule] :=
  if_neg (mt any_id_iff.mp new)

theorem nodup_place (distinct : (ids rules).Nodup) (rule : Rule) :
    (ids (place rules rule)).Nodup := by
  by_cases found : rule.id ∈ ids rules
  · rw [place_of_mem found, ids_modifyFirst (fun _ _ => rfl)]
    exact distinct
  · rw [place_of_not_mem found, ids, List.map_append, List.map_singleton]
    exact List.nodup_append.mpr ⟨distinct, List.nodup_singleton _, by
      rintro _ old _ new rfl
      exact found (List.mem_singleton.mp new ▸ old)⟩

theorem nodup_foldl_place (distinct : (ids rules).Nodup) (ready : List Rule) :
    (ids (ready.foldl place rules)).Nodup := by
  induction ready generalizing rules with
  | nil => exact distinct
  | cons rule rest ih => exact ih (nodup_place distinct rule)

/-- What stands in the place of a rule when rules have come in: the one with its id, if there is
one. -/
def renewed (ready : List Rule) (rule : Rule) : Rule :=
  (ready.find? fun other => other.id == rule.id).getD rule

/-- A book with rules taken in. Its own rules stay in their places or give them up to rules with
their ids; the other rules follow in order. -/
def joined (book : RuleBook) (ready : List Rule) : RuleBook :=
  ⟨book.rules.map (renewed ready) ++ ready.filter fun rule => !book.contains rule.id⟩

theorem renewed_of_not_mem (new : rule.id ∉ ids ready) : renewed ready rule = rule := by
  have nothing : (ready.find? fun other => other.id == rule.id) = none := by
    rw [List.find?_eq_none]
    exact fun other member same => new (beq_iff_eq.mp same ▸ List.mem_map_of_mem member)
  rw [renewed, nothing, Option.getD_none]

theorem renewed_cons (first : Rule) :
    renewed (first :: ready) rule = if first.id = rule.id then first else renewed ready rule := by
  simp only [renewed, List.find?_cons]
  split
  · rename_i same
    rw [if_pos (beq_iff_eq.mp same), Option.getD_some]
  · rename_i different
    rw [if_neg (by simpa using different)]

/-- Putting rules in their places one after the other comes to putting all of them in at once. -/
theorem foldl_place_eq_joined (distinct : (ids rules).Nodup) (single : (ids ready).Nodup) :
    ready.foldl place rules = (joined ⟨rules⟩ ready).rules := by
  induction ready generalizing rules with
  | nil =>
    have same : rules.map (renewed []) = rules := List.map_id' rules
    simp [joined, same]
  | cons rule rest ih =>
    obtain ⟨last, single⟩ := List.nodup_cons.mp single
    rw [List.foldl_cons, ih (nodup_place distinct rule) single]
    simp only [joined, contains_eq]
    by_cases found : rule.id ∈ ids rules
    · -- No later rule has this id, so the rule stays where it has been put.
      have stays (other : Rule) :
          renewed rest (if other.id == rule.id then rule else other) =
            renewed (rule :: rest) other := by
        by_cases same : rule.id = other.id
        · simp [same, renewed_cons, renewed_of_not_mem last]
        · simp [same, renewed_cons, Ne.symm same]
      rw [place_of_mem found, ids_modifyFirst (fun _ _ => rfl), modifyFirst_eq_map distinct,
        List.map_map, List.filter_cons_of_neg (by simpa using found)]
      exact congrArg (· ++ _) (List.map_congr_left fun other _ => stays other)
    · have apart : ∀ other ∈ rules, renewed rest other = renewed (rule :: rest) other := by
        intro other member
        rw [renewed_cons, if_neg]
        exact fun same => found (same ▸ List.mem_map_of_mem member)
      have new : ∀ other ∈ rest,
          (!decide (other.id ∈ ids (rules ++ [rule]))) = !decide (other.id ∈ ids rules) := by
        intro other member
        have different : other.id ≠ rule.id := fun same => last (same ▸ List.mem_map_of_mem member)
        simp [ids, different]
      rw [place_of_not_mem found, List.filter_cons_of_pos (by simpa using found), List.map_append,
        List.map_singleton, renewed_of_not_mem last, List.map_congr_left apart,
        List.filter_congr new, List.append_assoc, List.singleton_append]

end ApiProbe.RuleBook
