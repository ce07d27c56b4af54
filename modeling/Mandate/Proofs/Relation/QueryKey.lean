import Mandate.Proofs.Text.Cuts
import Mandate.Relation.CheckCache
import Mathlib.Data.Set.Function

/-! # The keys of queries

The answer to a query is kept under one text, in which the parts of the query are not quoted.
Identifiers that contain its separators can make two queries share a key; plain identifiers keep
the keys apart.
-/

namespace Mandate.Relation

/-- A question to a graph. -/
structure Query where
  subject : Node
  relation : String
  object : Node
  deriving DecidableEq, Repr

namespace Query

/-- The text under which the answer is kept. -/
def key (q : Query) : String := CheckCache.key q.subject q.relation q.object

/-- The tuple that says yes. -/
def tuple (q : Query) : Tuple := ⟨q.object, q.relation, q.subject⟩

/-- The nodes can be read from texts, and the relation is not blank. -/
structure WellFormed (q : Query) : Prop where
  subject : ∃ text, Node.parse text = .ok q.subject
  relation : Text.isBlankText q.relation = false
  object : ∃ text, Node.parse text = .ok q.object

end Query

/-- What can be read as a node. -/
theorem Node.parse_ok {text : String} {node : Node} (hparse : Node.parse text = .ok node) :
    ':' ∉ node.space.toList ∧ node.space.isEmpty = false ∧ node.id.isEmpty = false := by
  unfold Node.parse at hparse
  split at hparse
  next space id hsplit =>
    split at hparse
    · cases hparse
    next hparts =>
      obtain rfl := Except.ok.inj hparse
      simp only [Bool.or_eq_true, List.isEmpty_iff, not_or] at hparts
      refine ⟨?_, ?_, ?_⟩
      · rw [String.toList_ofList]
        exact (Text.splitOnce_spec hsplit).2
      · simpa [String.isEmpty_iff] using hparts.1
      · simpa [String.isEmpty_iff] using hparts.2
  · cases hparse

theorem Node.text_inj {m n : Node} (hm : ':' ∉ m.space.toList) (hn : ':' ∉ n.space.toList)
    (htext : m.text = n.text) : m = n := by
  have hlists : m.space.toList ++ ':' :: m.id.toList = n.space.toList ++ ':' :: n.id.toList := by
    simpa [Node.text, String.toList_append] using congrArg String.toList htext
  obtain ⟨hspace, hid⟩ := Text.append_cons_inj hm hn hlists
  cases m
  cases n
  rw [Node.mk.injEq]
  exact ⟨String.toList_inj.mp hspace, String.toList_inj.mp hid⟩

namespace Query

/-- Neither the subject contains the separator behind it, nor the relation the one behind it. -/
structure Plain (q : Query) : Prop extends q.WellFormed where
  plainSubject : '#' ∉ q.subject.text.toList
  plainRelation : '@' ∉ q.relation.toList

theorem key_toList (q : Query) : q.key.toList =
    q.subject.text.toList ++ '#' :: (q.relation.toList ++ '@' :: q.object.text.toList) := by
  simp [key, CheckCache.key, String.toList_append]

/-- Plain queries have keys of their own. -/
theorem injOn_key_plain : Set.InjOn key {q | q.Plain} := by
  intro p hp q hq hkey
  obtain ⟨_, hpSubject⟩ := hp.subject
  obtain ⟨_, hqSubject⟩ := hq.subject
  obtain ⟨_, hpObject⟩ := hp.object
  obtain ⟨_, hqObject⟩ := hq.object
  have hlists := congrArg String.toList hkey
  rw [key_toList, key_toList] at hlists
  obtain ⟨hsubject, hrest⟩ := Text.append_cons_inj hp.plainSubject hq.plainSubject hlists
  obtain ⟨hrelation, hobject⟩ := Text.append_cons_inj hp.plainRelation hq.plainRelation hrest
  cases p
  cases q
  rw [Query.mk.injEq]
  exact ⟨Node.text_inj (Node.parse_ok hpSubject).1 (Node.parse_ok hqSubject).1
      (String.toList_inj.mp hsubject),
    String.toList_inj.mp hrelation,
    Node.text_inj (Node.parse_ok hpObject).1 (Node.parse_ok hqObject).1
      (String.toList_inj.mp hobject)⟩

/-- Queries with the same key, subject and object are the same. -/
theorem eq_of_key {p q : Query} (hkey : p.key = q.key) (hsubject : p.subject = q.subject)
    (hobject : p.object = q.object) : p = q := by
  have hlists := congrArg String.toList hkey
  rw [key_toList, key_toList, hsubject, hobject] at hlists
  have hrelation : p.relation.toList = q.relation.toList := by simpa using hlists
  cases p
  cases q
  rw [Query.mk.injEq]
  exact ⟨hsubject, String.toList_inj.mp hrelation, hobject⟩

end Query

end Mandate.Relation
