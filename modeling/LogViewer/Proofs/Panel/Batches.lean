import LogViewer.Panel
import LogViewer.Proofs.Feed.Lines
import LogViewer.Proofs.Rules.Changes
import LogViewer.Proofs.Store.Run

/-!
# Messages in batches

Messages come in batches, and it does not matter where one batch ends and the next begins. Messages
that fall off the store at once are counted like those that fall off later, and the view is asked
for one refresh for all batches until that refresh begins.

## Main statements

- `RuleSet.countUnread_append`, `Refresher.request_request`: two batches and two requests are one
- `Panel.receive_receive`, `Panel.foldl_receive`: batches that come in are one batch
- `Panel.receive_cuts`: any two ways of cutting messages into batches lead to the same panel
-/

namespace LogViewer

/-! ## §1 Parts of the panel -/

/-- A rule counts two batches as one. -/
theorem Rule.countUnread_append (r : Rule) (first second : List Message) :
    (r.countUnread first).countUnread second = r.countUnread (first ++ second) := by
  have hcount : r.unread + first.countP r.matches + second.countP r.matches
      = r.unread + (first ++ second).countP r.matches := by
    rw [List.countP_append, Nat.add_assoc]
  unfold Rule.countUnread at hcount ⊢
  exact congrArg (fun unread => { r with unread }) hcount

/-- Every rule but the selected one counts two batches as one. -/
theorem RuleSet.countUnread_append (s : RuleSet) (first second : List Message) :
    (s.countUnread first).countUnread second = s.countUnread (first ++ second) := by
  have hrules : ((s.countUnread first).countUnread second).rules
      = (s.countUnread (first ++ second)).rules := by
    apply List.ext_getElem?
    intro i
    simp only [getElem?_countUnread, countUnread_selected]
    split
    · rfl
    · rw [Option.map_map]
      exact congrArg (fun f => s.rules[i]?.map f)
        (funext fun r => r.countUnread_append first second)
  unfold countUnread at hrules ⊢
  simp only [RuleSet.mk.injEq]
  exact ⟨hrules, trivial⟩

/-- Two requests are one, which scrolls if one of them does. -/
theorem Refresher.request_request (r : Refresher) (scroll scroll' : Bool) :
    ((r.request scroll).1.request scroll').1 = (r.request (scroll || scroll')).1 := by
  unfold request
  cases hpending : r.pending with
  | true => simp [Bool.or_assoc]
  | false => simp [Bool.or_assoc]

namespace Panel

/-! ## §2 Batches that come in -/

/-- Two batches that come in are one batch. -/
theorem receive_receive (p : Panel) (first second : List Message) :
    (p.receive first).receive second = p.receive (first ++ second) := by
  cases first with
  | nil => rfl
  | cons m first =>
    cases second with
    | nil =>
      rw [List.append_nil]
      rfl
    | cons m' second =>
      have hstore := p.store.extend_extend (m :: first) (m' :: second)
      have hrules := p.rules.countUnread_append (m :: first) (m' :: second)
      have hasked : (p.refresher.map fun r => (r.request false).1).map
          (fun r => (r.request false).1) = p.refresher.map fun r => (r.request false).1 := by
        rw [Option.map_map]
        exact congrArg (fun f => p.refresher.map f)
          (funext fun r => r.request_request false false)
      simp only [receive, requestRefresh, List.isEmpty_cons, List.cons_append, Bool.false_eq_true,
        if_false] at hstore hrules ⊢
      rw [hstore, hrules, hasked]

/-- Batches that come in one after the other are one batch. -/
theorem foldl_receive (p : Panel) (batches : List (List Message)) :
    batches.foldl receive p = p.receive batches.flatten := by
  induction batches generalizing p with
  | nil => rfl
  | cons batch batches ih =>
    rw [List.foldl_cons, ih, receive_receive, List.flatten_cons]

/-- Any two ways of cutting messages into batches lead to the same panel: the same messages are
kept, every rule counts the same, and the same refresh is outstanding. So the messages of a source
come in with the same result whatever the size of the batches that it is read in. -/
theorem receive_cuts (p : Panel) {cut cut' : List (List Message)} (h : cut.flatten = cut'.flatten) :
    cut.foldl receive p = cut'.foldl receive p ∧
    ∀ (size size' : Nat) (names names' : Processes) (lines : List Text) (ms : List Message),
      readLines names lines = .ok (ms, names') →
      (deliver size names [] lines).batches.foldl receive p
        = (deliver size' names [] lines).batches.foldl receive p := by
  constructor
  · rw [foldl_receive, foldl_receive, h]
  · intro size size' names names' lines ms hlines
    rw [foldl_receive, foldl_receive, flatten_deliver size hlines, flatten_deliver size' hlines]

/-- Three messages come into a store for two, in one batch or in several, with empty ones between. A
rule that is not selected counts all three, and one refresh is outstanding. -/
theorem receive_cuts_overflow :
    ∃ (p : Panel) (a b c : Message) (lines : List Text) (r : List Message × Processes),
      [[a, b, c]].flatten = [[], [a], [], [b, c]].flatten ∧
      [[a, b, c]].foldl receive p = [[], [a], [], [b, c]].foldl receive p ∧
      (([[a, b, c]].foldl receive p).store.messages, ([[a, b, c]].foldl receive p).outstanding,
        ([[a, b, c]].foldl receive p).rules.rules.map (·.unread)) = ([b, c], 1, [0, 3]) ∧
      readLines .empty lines = .ok r ∧ r.1.length = 2 ∧
      (deliver 2000 .empty [] lines).batches.foldl receive p
        = (deliver 1 .empty [] lines).batches.foldl receive p := by
  let message (text : Text) : Message := ⟨"", 1, "", "", .info, text, none⟩
  let a := message "a"
  let b := message "b"
  let c := message "c"
  let rule : Rule :=
    ⟨{ Criteria.named "info" with level := .info }, ⟨none, none, none⟩, false, 0, rfl⟩
  let p : Panel :=
    ⟨.empty 2 (by decide), 2, .ofRules [rule], "", .verbose, [openRule], .memory "", .empty,
      some .idle, []⟩
  let lines : List Text := ["I/a(    1): b", "I/a(    1): c"]
  have hflatten : [[a, b, c]].flatten = [[], [a], [], [b, c]].flatten := rfl
  have hread : readLines .empty lines
      = .ok ([⟨"", 1, "?", "a", .info, "b", none⟩, ⟨"", 1, "?", "a", .info, "c", none⟩], []) := rfl
  obtain ⟨hcuts, hsizes⟩ := receive_cuts p hflatten
  exact ⟨p, a, b, c, lines, _, hflatten, hcuts, by decide +kernel, hread, rfl,
    hsizes 2000 1 .empty _ lines _ hread⟩

end Panel

end LogViewer
