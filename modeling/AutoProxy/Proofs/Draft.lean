import AutoProxy.Draft
import AutoProxy.Proofs.RuleSet.Account
import AutoProxy.Proofs.RuleSet.Size
import AutoProxy.Proofs.RuleSet.Union

/-! The account of a draft: what one step does to it, and so what it says after any number of
steps. -/
namespace AutoProxy.Draft

open RuleSet

variable {d : Draft} {counts : List (Text × Count)}

/-- What is done to a draft. -/
inductive Step where
  | add (r : Rule)
  | addLine (line : Text)
  | fold (source : Text) (lines : List Text)
  | collect (feed : List Text) (user : Option (List Text))
  | build

/-- A rule without a place changes nothing, and neither does a line that names none. -/
def step (d : Draft) : Step → Draft
  | .add r => (d.add? r).getD d
  | .addLine line => ((Rule.parse line).bind d.add?).getD d
  | .fold source lines => d.fold source lines
  | .collect feed user => d.collect feed user
  | .build => d.build

def run (steps : List Step) : Draft := steps.foldl step empty

/-- The lists that a step reads, under their names. -/
def Step.lists : Step → List (Text × List Text)
  | .fold source lines => [(source, lines)]
  | .collect feed none => [(Collection.feedName, feed)]
  | .collect feed (some own) => [(Collection.feedName, feed), (Collection.userName, own)]
  | .add _ | .addLine _ | .build => []

/-- The same lists with their counts. -/
def Step.records (x : Step) : List (Text × Count) :=
  x.lists.map fun (source, lines) => (source, account lines)

/-- A rule that is added for itself comes from no list and is not counted. -/
theorem tally_step_add (d : Draft) (r : Rule) :
    (d.step (.add r)).collection.tally = d.collection.tally := by
  rw [step, add?]
  cases d.collection.rules.add? r <;> rfl

theorem tally_step_addLine (d : Draft) (line : Text) :
    (d.step (.addLine line)).collection.tally = d.collection.tally := by
  rw [step]
  cases Rule.parse line with
  | none => rfl
  | some r => exact tally_step_add d r

theorem sums_step (h : d.collection.tally.Sums counts) (x : Step) :
    (d.step x).collection.tally.Sums (counts ++ x.records) := by
  -- A step that reads no list leaves the account alone.
  have hnone : d.collection.tally.Sums (counts ++ []) := by
    rw [List.append_nil]
    exact h
  cases x with
  | add r =>
    rw [tally_step_add]
    exact hnone
  | addLine line =>
    rw [tally_step_addLine]
    exact hnone
  | fold source lines =>
    have hfold := h.record source (account lines)
    rw [← Collection.tally_fold] at hfold
    exact hfold
  | collect feed user =>
    have hfeed := h.record Collection.feedName (account feed)
    cases user with
    | none =>
      rw [← Collection.tally_ofLists_none] at hfeed
      exact hfeed
    | some own =>
      have hown := hfeed.record Collection.userName (account own)
      rw [← Collection.tally_ofLists_some, List.append_assoc] at hown
      exact hown
  | build => exact hnone

theorem run_concat (steps : List Step) (x : Step) : run (steps ++ [x]) = (run steps).step x := by
  rw [run, List.foldl_concat, ← run]

/-- By induction on the steps: each one records the lists that it reads. -/
theorem sums_run (steps : List Step) :
    (run steps).collection.tally.Sums (steps.flatMap Step.records) := by
  induction steps using List.reverseRecOn with
  | nil => exact Tally.sums_zero
  | append_singleton steps x ih =>
    rw [run_concat, List.flatMap_append, List.flatMap_singleton]
    exact sums_step ih x

theorem balanced_of_mem_records {steps : List Step} {record : Text × Count}
    (h : record ∈ steps.flatMap Step.records) : record.2.Balanced := by
  obtain ⟨x, -, hrecord⟩ := List.mem_flatMap.mp h
  obtain ⟨list, -, rfl⟩ := List.mem_map.mp hrecord
  exact balanced_account list.2

theorem length_keptRules_eq_sub (lines : List Text) :
    (keptRules lines).length = (account lines).processed - (account lines).dropped := by
  have hlength := length_keptRules lines
  omega

theorem overall_collect (d : Draft) (feed : List Text) (user : Option (List Text)) :
    (d.collect feed user).collection.tally.overall =
      d.collection.tally.overall + account (Collection.allLines feed user) := by
  cases user with
  | none =>
    have hlines : Collection.allLines feed none = feed := List.append_nil feed
    rw [collect, Collection.tally_ofLists_none, hlines]
    rfl
  | some own =>
    have hlines : account (Collection.allLines feed (some own)) = account feed + account own :=
      account_append feed own
    rw [collect, Collection.tally_ofLists_some, hlines, ← Count.add_assoc]
    rfl

/-- What is collected is what the lines that are kept name. -/
theorem mem_rules_ofLists {tally : Tally} {feed : List Text} {user : Option (List Text)}
    {r : Rule} :
    r ∈ (Collection.ofLists tally feed user).rules.rules ↔
      some r ∈ keptRules (Collection.allLines feed user) := by
  rw [mem_rules, mem_keptRules_iff]
  constructor
  · rintro ⟨c, v, hv, rfl⟩
    exact ⟨c, v, rfl, Collection.mem_get_ofLists_iff_addition.mp hv⟩
  · rintro ⟨c, v, rfl, hadd⟩
    exact ⟨c, v, Collection.mem_get_ofLists_iff_addition.mpr hadd, rfl⟩

/-- After any steps the counts add up, each for itself, over all lists that were read, and, unless a
name came twice, over the names. Rules that are added for themselves are not counted. A list adds no
more new rules than lines that were processed and not dropped, and where the rules are those of a
feed and a user's list alone, they are as many as these lines exactly if no two of the lines name
the same rule. -/
theorem account_run (steps : List Step) :
    let d := run steps
    let t := d.collection.tally
    let records := steps.flatMap Step.records
    (t.overall.Balanced ∧ ∀ record ∈ t.bySource, record.2.Balanced) ∧
    t.overall = Count.sum (records.map (·.2)) ∧
    ((records.map (·.1)).Nodup → t.overall = Count.sum (t.bySource.map (·.2))) ∧
    ((∀ r, (d.step (.add r)).collection.tally = t) ∧
      ∀ line, (d.step (.addLine line)).collection.tally = t) ∧
    (∀ (k : Collection) (source : Text) (lines : List Text),
      let n := account lines
      (k.fold source lines).tally = k.tally.record source n ∧
        (gained k.rules (k.fold source lines).rules).length ≤ n.processed - n.dropped) ∧
    ∀ (feed : List Text) (user : Option (List Text)),
      let lines := Collection.allLines feed user
      let n := account lines
      let e := (d.step (.collect feed user)).collection
      let size := (Category.all.map fun c => (e.rules.get c).size).sum
      e.tally.overall = t.overall + n ∧ size ≤ n.processed - n.dropped ∧
        (size = n.processed - n.dropped ↔ ((lines.filter isKept).map Rule.parse).Nodup) := by
  intro d t records
  have hsums : t.Sums records := sums_run steps
  have hbalanced : ∀ record ∈ records, record.2.Balanced := fun _ => balanced_of_mem_records
  refine ⟨⟨?_, ?_⟩, hsums.overall, ?_, ⟨tally_step_add d, tally_step_addLine d⟩, ?_, ?_⟩
  · rw [hsums.overall]
    exact Count.balanced_sum (List.forall_mem_map.mpr hbalanced)
  · intro record hrecord
    exact hbalanced record (hsums.bySource record hrecord)
  · intro hnodup
    rw [hsums.unrepeated hnodup]
    exact hsums.overall
  · intro k source lines n
    refine ⟨Collection.tally_fold k source lines, ?_⟩
    rw [← length_keptRules_eq_sub]
    exact length_gained_addLines k.rules lines
  · intro feed user lines n e size
    obtain ⟨hle, heq⟩ := size_of_mem_rules_iff fun r => mem_rules_ofLists (r := r)
    rw [length_keptRules_eq_sub] at hle heq
    exact ⟨overall_collect d feed user, hle, heq⟩

theorem account_run_names_apart :
    let steps : List Step := [.fold "mine".toList ["ads".toList, "a b".toList],
      .addLine "x.org".toList, .collect ["||a.com".toList, [], "A.com".toList] none]
    let t := (run steps).collection.tally
    ((steps.flatMap Step.records).map (·.1)).Nodup ∧
      t.overall = Count.sum (t.bySource.map (·.2)) ∧ t.overall = ⟨5, 1, 0, 4, 1⟩ := by
  intro steps t
  have hnames : ((steps.flatMap Step.records).map (·.1)).Nodup := by decide
  obtain ⟨-, hsum, hsources, -⟩ := account_run steps
  refine ⟨hnames, hsources hnames, hsum.trans ?_⟩
  decide

end AutoProxy.Draft
