import AutoProxy.Proofs.RuleSet.Membership

/-! The account of the lists that were read: what each count says, and what their sum says. -/
namespace AutoProxy

namespace Count

variable {a b : Count} {ns : List Count}

/-- Every line is of one class, and no other lines are dropped than those that were processed. -/
structure Balanced (n : Count) : Prop where
  total : n.total = n.empty + n.comments + n.processed
  dropped : n.dropped ≤ n.processed

theorem balanced_zero : zero.Balanced := ⟨rfl, Nat.le_refl 0⟩

/-- Counts that add up for themselves add up together. -/
theorem Balanced.add (ha : a.Balanced) (hb : b.Balanced) : (a + b).Balanced := by
  obtain ⟨htotal, hdropped⟩ := ha
  obtain ⟨htotal', hdropped'⟩ := hb
  constructor <;> simp only [add_eq] <;> omega

theorem add_zero (a : Count) : a + zero = a := rfl

def sum (ns : List Count) : Count := ns.foldr (· + ·) zero

/-- A list that is read last is counted last. -/
theorem sum_concat (ns : List Count) (n : Count) : sum (ns ++ [n]) = sum ns + n := by
  induction ns with
  | nil => exact (add_zero n).trans (zero_add n).symm
  | cons m ns ih =>
    have hcons (ms : List Count) : sum (m :: ms) = m + sum ms := rfl
    rw [List.cons_append, hcons, hcons, ih, add_assoc]

theorem balanced_sum (h : ∀ n ∈ ns, n.Balanced) : (sum ns).Balanced := by
  induction ns with
  | nil => exact balanced_zero
  | cons n ns ih =>
    obtain ⟨hn, hns⟩ := List.forall_mem_cons.mp h
    exact hn.add (ih hns)

end Count

namespace RuleSet

theorem account_append (xs ys : List Text) : account (xs ++ ys) = account xs + account ys := by
  simp only [account, Count.add_eq, List.length_append, List.countP_append]

/-- A line is blank, a comment or a candidate, and only candidates can be dropped. -/
theorem balanced_account (lines : List Text) : (account lines).Balanced := by
  induction lines with
  | nil => exact Count.balanced_zero
  | cons line lines ih =>
    rw [account_cons]
    refine Count.Balanced.add ?_ ih
    cases hclass : LineClass.of line with
    | blank => constructor <;> simp [account, hclass]
    | comment => constructor <;> simp [account, hclass]
    | candidate =>
      cases hadd : (addition? line).isNone <;> constructor <;> simp [account, hclass, hadd]

end RuleSet

namespace Tally

variable {t : Tally} {records : List (Text × Count)}

/-- What an account says of the lists that were read, each under its name and with its count. -/
structure Sums (t : Tally) (records : List (Text × Count)) : Prop where
  overall : t.overall = Count.sum (records.map (·.2))
  bySource : ∀ record ∈ t.bySource, record ∈ records
  unrepeated : (records.map (·.1)).Nodup → t.bySource = records

/-- Nothing was read yet. -/
theorem sums_zero : zero.Sums [] := ⟨rfl, fun _ h => h, fun _ => rfl⟩

/-- To read one more list keeps the account true. A list whose name came before takes its place, so
the single counts are all there only if no name is repeated, but the sum is not touched by that. -/
theorem Sums.record (h : t.Sums records) (source : Text) (n : Count) :
    (t.record source n).Sums (records ++ [(source, n)]) := by
  constructor
  · rw [List.map_append, List.map_singleton, Count.sum_concat, ← h.overall]
    rfl
  · intro record hrecord
    rcases List.mem_append.mp hrecord with hold | hnew
    · exact List.mem_append_left _ (h.bySource record (List.mem_filter.mp hold).1)
    · exact List.mem_append_right _ hnew
  · intro hnodup
    rw [List.map_append, List.map_singleton, List.nodup_append] at hnodup
    obtain ⟨hrecords, -, hapart⟩ := hnodup
    have hkeep : records.filter (·.1 ≠ source) = records := by
      rw [List.filter_eq_self]
      intro record hrecord
      have hname : record.1 ∈ records.map (·.1) := List.mem_map_of_mem hrecord
      exact decide_eq_true (hapart record.1 hname source (List.mem_singleton_self source))
    rw [Tally.record, h.unrepeated hrecords, hkeep]

end Tally

namespace Collection

/-- What was collected before has no part in the account of a list. -/
theorem tally_fold (k : Collection) (source : Text) (lines : List Text) :
    (k.fold source lines).tally = k.tally.record source (RuleSet.account lines) := by
  rw [← RuleSet.snd_addLines k.rules lines]
  rfl

theorem tally_ofLists_none (tally : Tally) (feed : List Text) :
    (ofLists tally feed none).tally = tally.record feedName (RuleSet.account feed) :=
  tally_fold ⟨.empty, tally⟩ feedName feed

/-- The feed is counted first, the user's own list behind it. -/
theorem tally_ofLists_some (tally : Tally) (feed own : List Text) :
    (ofLists tally feed (some own)).tally =
      (tally.record feedName (RuleSet.account feed)).record userName (RuleSet.account own) := by
  rw [← tally_fold ⟨.empty, tally⟩ feedName feed, ← tally_fold]
  rfl

end Collection

end AutoProxy
