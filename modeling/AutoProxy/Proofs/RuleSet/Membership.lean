import AutoProxy.RuleSet.Collection
import Mathlib

/-! What a rule set holds after lines were read into it, and how the lines were counted. -/
namespace AutoProxy

namespace Count

variable {a b : Count}

theorem add_eq (a b : Count) : a + b = ⟨a.total + b.total, a.empty + b.empty,
    a.comments + b.comments, a.processed + b.processed, a.dropped + b.dropped⟩ := rfl

theorem add_assoc (a b c : Count) : a + b + c = a + (b + c) := by
  simp [add_eq, Nat.add_assoc]

theorem zero_add (a : Count) : zero + a = a := by
  simp [add_eq, zero]

end Count

namespace RuleSet

variable {s : RuleSet} {n : Count} {c : Category} {v line : Text} {lines : List Text}

/-- The place and the value that a line adds to a rule set. -/
def addition? (line : Text) : Option (Category × Text) :=
  if LineClass.of line = .candidate then
    (Rule.parse line).bind fun r => (Category.of? r.kind r.whitelist).map fun c => (c, r.value)
  else none

/-- The place of a value tells the kind and the side of its rule, so no other rule adds the same. -/
theorem addition?_eq_some_iff :
    addition? line = some (c, v) ↔
      LineClass.of line = .candidate ∧ Rule.parse line = some ⟨c.kind, v, c.whitelist⟩ := by
  rw [addition?]
  split
  · next hclass =>
    simp only [hclass, true_and, Option.bind_eq_some_iff, Option.map_eq_some_iff, Prod.mk.injEq]
    constructor
    · rintro ⟨⟨k, u, w⟩, hparse, d, hd, rfl, rfl⟩
      obtain ⟨rfl, rfl⟩ := Category.of?_eq_some_iff.mp hd
      exact hparse
    · intro hparse
      exact ⟨_, hparse, c, Category.of?_kind_whitelist c, rfl, rfl⟩
  · next hclass => simp [hclass]

/-- The lines of each class, and those that could name a rule but add none. -/
def account (lines : List Text) : Count where
  total := lines.length
  empty := lines.countP (LineClass.of · = .blank)
  comments := lines.countP (LineClass.of · = .comment)
  processed := lines.countP (LineClass.of · = .candidate)
  dropped := lines.countP fun line => LineClass.of line = .candidate && (addition? line).isNone

/-- To add the rule of a candidate is to insert what its line adds. -/
theorem bind_add?_eq (hclass : LineClass.of line = .candidate) :
    (Rule.parse line).bind s.add? = (addition? line).map fun (c, v) => s.insert c v := by
  rw [addition?, if_pos hclass]
  cases Rule.parse line with
  | none => rfl
  | some r =>
    simp only [Option.bind_some, add?]
    cases Category.of? r.kind r.whitelist <;> rfl

/-- A line either inserts one value into one place, or leaves the rules alone. -/
theorem fst_addLine : (addLine (s, n) line).1 =
    match addition? line with
    | some (c, v) => s.insert c v
    | none => s := by
  rw [addLine]
  cases hclass : LineClass.of line with
  | blank => simp [addition?, hclass]
  | comment => simp [addition?, hclass]
  | candidate =>
    simp only [bind_add?_eq hclass]
    cases addition? line <;> rfl

/-- A line is counted by its class, and as dropped if it is a candidate that adds nothing. -/
theorem snd_addLine : (addLine (s, n) line).2 = n + account [line] := by
  rw [addLine]
  cases hclass : LineClass.of line with
  | blank => simp [account, hclass, Count.add_eq, Count.blankLine]
  | comment => simp [account, hclass, Count.add_eq, Count.commentLine]
  | candidate =>
    simp only [bind_add?_eq hclass]
    cases hadd : addition? line <;>
      simp [account, hclass, hadd, Count.add_eq, Count.keptLine, Count.droppedLine]

/-- Lines are counted one at a time. -/
theorem account_cons (line : Text) (lines : List Text) :
    account (line :: lines) = account [line] + account lines := by
  simp [account, Count.add_eq, List.countP_cons, Nat.add_comm]

/-- How lines are counted does not depend on the rules that are there. -/
theorem snd_foldl_addLine : (lines.foldl addLine (s, n)).2 = n + account lines := by
  induction lines generalizing s n with
  | nil => simp [account, Count.add_eq]
  | cons line lines ih =>
    rw [List.foldl_cons, ← Prod.mk.eta (p := addLine (s, n) line), ih, snd_addLine,
      account_cons line lines, Count.add_assoc]

theorem snd_addLines (s : RuleSet) (lines : List Text) : (s.addLines lines).2 = account lines := by
  rw [addLines, snd_foldl_addLine, Count.zero_add]

/-- Other values stay, and so do other places. -/
theorem mem_get_insert {d : Category} {u : Text} :
    u ∈ (s.insert c v).get d ↔ (c = d ∧ u = v) ∨ u ∈ s.get d := by
  rw [get_insert]
  split
  · next h => simp [h, TextSet.mem_insert]
  · next h => simp [h]

/-- Nothing is ever taken away again. -/
theorem mem_get_addLine :
    v ∈ (addLine (s, n) line).1.get c ↔ v ∈ s.get c ∨ addition? line = some (c, v) := by
  rw [fst_addLine]
  split
  · next d u hadd =>
    rw [mem_get_insert, hadd]
    simp [or_comm, eq_comm]
  · next hadd => simp [hadd]

/-- By induction on the lines: each one keeps what is there and adds its own value. The order of the
lines does not show. -/
theorem mem_get_foldl_addLine :
    v ∈ (lines.foldl addLine (s, n)).1.get c ↔
      v ∈ s.get c ∨ ∃ line ∈ lines, addition? line = some (c, v) := by
  induction lines generalizing s n with
  | nil => simp
  | cons line lines ih =>
    rw [List.foldl_cons, ← Prod.mk.eta (p := addLine (s, n) line), ih, mem_get_addLine, or_assoc]
    simp

theorem mem_get_addLines :
    v ∈ (s.addLines lines).1.get c ↔ v ∈ s.get c ∨ ∃ line ∈ lines, addition? line = some (c, v) :=
  mem_get_foldl_addLine

theorem not_mem_get_empty : v ∉ empty.get c := by
  cases c <;> exact TextSet.not_mem_empty

end RuleSet

namespace Collection

variable {tally : Tally} {feed : List Text} {user : Option (List Text)} {c : Category} {v : Text}

/-- A candidate line of the feed or of the user's own list names the rule. -/
def IsListed (feed : List Text) (user : Option (List Text)) (r : Rule) : Prop :=
  ∃ line, (line ∈ feed ∨ ∃ own, user = some own ∧ line ∈ own) ∧ LineClass.of line = .candidate ∧
    Rule.parse line = some r

/-- A value is in its place exactly if some line of either list names it there. -/
theorem mem_get_ofLists :
    v ∈ (ofLists tally feed user).rules.get c ↔ IsListed feed user ⟨c.kind, v, c.whitelist⟩ := by
  simp only [IsListed, ← RuleSet.addition?_eq_some_iff]
  cases user with
  | none =>
    simp only [ofLists, fold, RuleSet.mem_get_addLines, RuleSet.not_mem_get_empty, false_or]
    simp
  | some own =>
    simp only [ofLists, fold, RuleSet.mem_get_addLines, RuleSet.not_mem_get_empty, false_or]
    simp [or_and_right, exists_or]

end Collection

end AutoProxy
