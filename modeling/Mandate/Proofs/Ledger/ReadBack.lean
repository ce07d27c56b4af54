import Mandate.Ledger.Chain
import Mandate.Proofs.Json.Fields
import Mandate.Proofs.Json.RoundTrip
import Mandate.Proofs.Text.Identifiers

/-! # Entries are read back

An entry is read back from its line if its payload is in key order and does not nest too deeply, and
if the numbers in it and the time are read back. The line is one container around the payload.
-/

namespace Mandate

open Mandate.Json Mandate.Time

theorem Chains.readEntry_eq_ok_iff {line : String} {found : LedgerEntry} :
    readEntry line = .ok found ↔
      ∃ tree, Tree.ofText? line = some tree ∧ LedgerEntry.decode tree = some found := by
  rw [readEntry, ← Option.bind_eq_some_iff]
  cases (Tree.ofText? line).bind LedgerEntry.decode <;> simp

namespace LedgerEntry

/-- The entry is what is read from its line. -/
def ReadsBack (e : LedgerEntry) : Prop := Chains.readEntry e.line = .ok e

/-- The members of the document of an entry. -/
def members (e : LedgerEntry) : Members :=
  field "entry_id" (.uuid e.entryId) ++ field "org_id" (.uuid e.orgId) ++
    field "seq" (.nat e.seq) ++ field "timestamp" (.time e.timestamp) ++
    field "action" e.action.json ++ optionalField "actor_user" e.actorUser .uuid ++
    optionalField "actor_agent" e.actorAgent .string ++ field "payload" e.payload ++
    field "previous_hash" ((e.previousHash.map Value.string).getD .null)

theorem json_eq (e : LedgerEntry) : e.json = .object e.members := rfl

/-- The names of the members. Those of the actors are only there with their values. -/
theorem names_members (e : LedgerEntry) : e.members.map (·.1) =
    ["entry_id", "org_id", "seq", "timestamp", "action"] ++
      (e.actorUser.map fun _ => "actor_user").toList ++
      (e.actorAgent.map fun _ => "actor_agent").toList ++ ["payload", "previous_hash"] := by
  unfold members
  cases e.actorUser <;> cases e.actorAgent <;> rfl

variable {depth : Nat} {trees : List (String × Tree)} {tree : Tree}

theorem distinct_reread {e : LedgerEntry}
    (hreread : Value.rereadMembers e.members depth = some trees) : Fields.Distinct trees := by
  rw [Fields.Distinct, Value.names_of_rereadMembers hreread, names_members]
  cases e.actorUser <;> cases e.actorAgent <;> simp

theorem decode_uuid (u : Uuid) : Decoder.uuid (.string u.text) = some u := by
  rw [Decoder.uuid, Decoder.string, Option.bind_some, Uuid.ofText?_text]

theorem decode_action (action : AuditAction) :
    AuditAction.decode (.string action.name) = some action :=
  AuditAction.ofName?_name action

/-- A number of at most 64 bits is read back, and no other is read. -/
theorem decode_nat {n m : Nat} (hreread : (Value.nat n).reread depth = some tree) :
    Decoder.unsigned 64 tree = some m ↔ n ≤ wordMax ∧ n = m := by
  by_cases hn : n ≤ wordMax
  · have hback : (Number.int n).ReadsBack :=
      Number.int_readsBack (by simp only [lowestInt]; omega) (by exact_mod_cast hn)
    obtain rfl : Tree.number (.int n) = tree := Option.some.inj (hback.reread_eq.symm.trans hreread)
    have hrange : (0 : Int) ≤ n ∧ (n : Int) ≤ ((1 <<< 64 : Nat) : Int) - 1 := by
      simp only [wordMax] at hn
      omega
    have hread : Decoder.intIn 0 ((1 <<< 64 : Nat) - 1) (.number (.int n)) = some (n : Int) :=
      if_pos hrange
    rw [Decoder.unsigned, hread]
    simp [hn]
  · have hread : Decoder.unsigned 64 tree = none := by
      unfold Decoder.unsigned Decoder.intIn
      split
      next number =>
        exact absurd hreread (Number.reread_of_wordMax_lt (by omega) number)
      next => rfl
    simp [hread, hn]

theorem read_actorUser {e : LedgerEntry}
    (hreread : Value.rereadMembers e.members depth = some trees) :
    Fields.optional "actor_user" Decoder.uuid (.members trees) =
      (some e.actorUser).map (·, Source.members trees) := by
  cases huser : e.actorUser with
  | none =>
      apply Fields.withDefault_of_notMem
      rw [Value.names_of_rereadMembers hreread, names_members, huser]
      cases e.actorAgent <;> simp
  | some user =>
      have hmem : ("actor_user", Value.uuid user) ∈ e.members := by
        simp [members, optionalField, huser]
      obtain ⟨_, hstring, hmem⟩ := Value.exists_mem_of_rereadMembers hreread hmem
      cases hstring
      rw [Fields.optional, Fields.withDefault_of_mem (distinct_reread hreread) hmem]
      change ((Decoder.uuid (.string user.text)).map some).map _ = _
      rw [decode_uuid]
      rfl

theorem read_actorAgent {e : LedgerEntry}
    (hreread : Value.rereadMembers e.members depth = some trees) :
    Fields.optional "actor_agent" Decoder.string (.members trees) =
      (some e.actorAgent).map (·, Source.members trees) := by
  cases hagent : e.actorAgent with
  | none =>
      apply Fields.withDefault_of_notMem
      rw [Value.names_of_rereadMembers hreread, names_members, hagent]
      cases e.actorUser <;> simp
  | some agent =>
      have hmem : ("actor_agent", Value.string agent) ∈ e.members := by
        simp [members, optionalField, hagent]
      obtain ⟨_, hstring, hmem⟩ := Value.exists_mem_of_rereadMembers hreread hmem
      cases hstring
      rw [Fields.optional, Fields.withDefault_of_mem (distinct_reread hreread) hmem]
      rfl

theorem read_previousHash {e : LedgerEntry}
    (hreread : Value.rereadMembers e.members depth = some trees) :
    Fields.named "previous_hash" Decoder.string (.members trees) =
      (some e.previousHash).map (·, Source.members trees) := by
  have hmem : ("previous_hash", (e.previousHash.map Value.string).getD .null) ∈ e.members := by
    simp [members, field]
  obtain ⟨_, hhash, hmem⟩ := Value.exists_mem_of_rereadMembers hreread hmem
  rw [Fields.named, Fields.optional, Fields.withDefault_of_mem (distinct_reread hreread) hmem]
  cases hprevious : e.previousHash <;>
    · rw [hprevious] at hhash
      cases hhash
      rfl

/-- Of the members of an entry, all but its number, its time and its payload are read back. -/
theorem decode_reread {e : LedgerEntry} {number payload : Tree}
    (hreread : Value.rereadMembers e.members depth = some trees)
    (hnumber : (Value.nat e.seq).reread depth = some number)
    (hpayload : e.payload.reread depth = some payload) :
    decode (.object trees) = (Decoder.unsigned 64 number).bind fun seq =>
      (Timestamp.ofText? e.timestamp.text).bind fun timestamp =>
        payload.value?.map fun payload => { e with seq, timestamp, payload } := by
  have hrequired {name : String} {value : Value} {tree : Tree} {α : Type} {read : Decoder α}
      {a? : Option α} (hfield : (name, value) ∈ e.members)
      (htree : value.reread depth = some tree) (hread : read tree = a?) :
      Fields.required name read (.members trees) = a?.map (·, Source.members trees) := by
    obtain ⟨_, htree', hmem⟩ := Value.exists_mem_of_rereadMembers hreread hfield
    rw [htree] at htree'
    cases htree'
    rw [Fields.required_of_mem (distinct_reread hreread) hmem, hread]
  have hentryId : ("entry_id", Value.uuid e.entryId) ∈ e.members := by simp [members, field]
  have horgId : ("org_id", Value.uuid e.orgId) ∈ e.members := by simp [members, field]
  have hseq : ("seq", Value.nat e.seq) ∈ e.members := by simp [members, field]
  have htimestamp : ("timestamp", Value.time e.timestamp) ∈ e.members := by simp [members, field]
  have haction : ("action", e.action.json) ∈ e.members := by simp [members, field]
  have hdocument : Fields.withDefault "payload" Decoder.document .null (.members trees) =
      payload.value?.map (·, Source.members trees) := by
    have hmem : ("payload", e.payload) ∈ e.members := by simp [members, field]
    obtain ⟨_, htree, hmem⟩ := Value.exists_mem_of_rereadMembers hreread hmem
    rw [hpayload] at htree
    cases htree
    exact Fields.withDefault_of_mem (distinct_reread hreread) hmem
  have htime : Decoder.time (.string e.timestamp.text) =
      Timestamp.ofText? e.timestamp.text := by
    rw [Decoder.time, Decoder.string, Option.bind_some]
  rw [decode, Decoder.record,
    Fields.bind_apply (hrequired hentryId rfl (decode_uuid e.entryId)), Option.bind_some,
    Fields.bind_apply (hrequired horgId rfl (decode_uuid e.orgId)), Option.bind_some,
    Fields.bind_apply (hrequired hseq hnumber rfl)]
  cases Decoder.unsigned 64 number with
  | none => rfl
  | some seq =>
      rw [Option.bind_some, Option.bind_some,
        Fields.bind_apply (hrequired htimestamp rfl htime)]
      cases Timestamp.ofText? e.timestamp.text with
      | none => rfl
      | some timestamp =>
          rw [Option.bind_some, Option.bind_some,
            Fields.bind_apply (hrequired haction rfl (decode_action e.action)), Option.bind_some,
            Fields.bind_apply (read_actorUser hreread), Option.bind_some,
            Fields.bind_apply (read_actorAgent hreread), Option.bind_some,
            Fields.bind_apply hdocument]
          cases payload.value? with
          | none => rfl
          | some payload =>
              rw [Option.bind_some, Fields.bind_apply (read_previousHash hreread)]
              rfl

/-- The members of an entry are all read, whatever they are read as, if its number and its payload
are. -/
theorem exists_rereadMembers {e : LedgerEntry}
    (hnumber : ∃ tree, (Value.nat e.seq).reread depth = some tree)
    (hpayload : ∃ tree, e.payload.reread depth = some tree) :
    ∃ trees, Value.rereadMembers e.members depth = some trees := by
  have hstring (text : String) : ∃ tree, (Value.string text).reread depth = some tree := ⟨_, rfl⟩
  have hnull : ∃ tree, Value.null.reread depth = some tree := ⟨_, rfl⟩
  apply Value.exists_rereadMembers
  rw [members]
  cases e.actorUser <;> cases e.actorAgent <;> cases e.previousHash <;>
    simp [field, optionalField, Value.uuid, Value.time, AuditAction.json, hstring, hnull, hnumber,
      hpayload]

/-- The line of an entry is read exactly if its number fits a word and its time and its payload can
be read. All else is read as it was written. -/
theorem readEntry_line_eq_ok_iff {e found : LedgerEntry} :
    Chains.readEntry e.line = .ok found ↔ e.seq ≤ wordMax ∧ ∃ timestamp payload,
      Timestamp.ofText? e.timestamp.text = some timestamp ∧
        (e.payload.reread (maxDepth - 1)).bind Tree.value? = some payload ∧
          { e with timestamp, payload } = found := by
  have hread : Chains.readEntry e.line = .ok found ↔ ∃ trees,
      Value.rereadMembers e.members (maxDepth - 1) = some trees ∧
        decode (.object trees) = some found := by
    have hline : Tree.ofText? e.line =
        (Value.rereadMembers e.members (maxDepth - 1)).map (atDepth maxDepth <| .object ·) := by
      rw [line, ofText?_text_eq_reread, json_eq, Value.reread]
    rw [Chains.readEntry_eq_ok_iff, hline]
    simp [atDepth, maxDepth]
  rw [hread]
  constructor
  · rintro ⟨trees, htrees, hdecode⟩
    have hseqMem : ("seq", Value.nat e.seq) ∈ e.members := by simp [members, field]
    have hpayloadMem : ("payload", e.payload) ∈ e.members := by simp [members, field]
    obtain ⟨number, hnumber, -⟩ := Value.exists_mem_of_rereadMembers htrees hseqMem
    obtain ⟨payload, hpayload, -⟩ := Value.exists_mem_of_rereadMembers htrees hpayloadMem
    rw [decode_reread htrees hnumber hpayload] at hdecode
    simp only [Option.bind_eq_some_iff, Option.map_eq_some_iff] at hdecode
    obtain ⟨seq, hseq, timestamp, htime, value, hvalue, rfl⟩ := hdecode
    obtain ⟨hword, rfl⟩ := (decode_nat hnumber).mp hseq
    refine ⟨hword, timestamp, value, htime, ?_, rfl⟩
    rw [hpayload, Option.bind_some, hvalue]
  · rintro ⟨hword, timestamp, value, htime, hvalue, rfl⟩
    obtain ⟨payload, hpayload, hvalue⟩ := Option.bind_eq_some_iff.mp hvalue
    have hnumber : (Value.nat e.seq).reread (maxDepth - 1) = some (.number (.int e.seq)) :=
      (Number.int_readsBack (by simp only [lowestInt]; omega) (by exact_mod_cast hword)).reread_eq
    obtain ⟨trees, htrees⟩ := exists_rereadMembers ⟨_, hnumber⟩ ⟨_, hpayload⟩
    refine ⟨trees, htrees, ?_⟩
    rw [decode_reread htrees hnumber hpayload, (decode_nat hnumber).mpr ⟨hword, rfl⟩, htime, hvalue]
    rfl

/-- The entry can be read from its line, though its numbers may come out rounded: its place in the
chain fits a word, its time is a time again, and all of its payload, which stands inside of one
container, denotes something. -/
structure Legible (e : LedgerEntry) : Prop where
  seq : e.seq ≤ wordMax
  timestamp : (Timestamp.ofText? e.timestamp.text).isSome
  payload : ((e.payload.reread (maxDepth - 1)).bind Tree.value?).isSome

/-- A legible entry is read from its line in its place of the same chain. -/
theorem Legible.exists_readEntry {e : LedgerEntry} (hlegible : e.Legible) :
    ∃ timestamp payload, Chains.readEntry e.line = .ok { e with timestamp, payload } := by
  obtain ⟨timestamp, htime⟩ := Option.isSome_iff_exists.mp hlegible.timestamp
  obtain ⟨payload, hpayload⟩ := Option.isSome_iff_exists.mp hlegible.payload
  exact ⟨timestamp, payload, readEntry_line_eq_ok_iff.mpr
    ⟨hlegible.seq, timestamp, payload, htime, hpayload, rfl⟩⟩

theorem legible_of_readEntry {e found : LedgerEntry}
    (hread : Chains.readEntry e.line = .ok found) : e.Legible := by
  obtain ⟨hseq, timestamp, payload, htime, hpayload, -⟩ := readEntry_line_eq_ok_iff.mp hread
  exact ⟨hseq, Option.isSome_iff_exists.mpr ⟨_, htime⟩,
    Option.isSome_iff_exists.mpr ⟨_, hpayload⟩⟩

theorem ReadsBack.legible {e : LedgerEntry} (hback : e.ReadsBack) : e.Legible :=
  legible_of_readEntry hback

/-- An entry is read back if its payload is in key order and one level below the nesting limit, and
its numbers and its time are read back. -/
theorem readsBack_of_payload {e : LedgerEntry} (hseq : e.seq ≤ wordMax)
    (htime : Timestamp.ofText? e.timestamp.text = some e.timestamp)
    (hsorted : e.payload.sorted = e.payload) (hnesting : e.payload.nesting < maxDepth)
    (hnumbers : ∀ n ∈ e.payload.numbers, n.ReadsBack) : e.ReadsBack := by
  refine readEntry_line_eq_ok_iff.mpr ⟨hseq, e.timestamp, e.payload, htime, ?_, rfl⟩
  rw [Value.reread_eq_tree e.payload (maxDepth - 1) (Nat.le_sub_one_of_lt hnesting) hnumbers,
    Option.bind_some, value?_tree, hsorted]

end LedgerEntry

end Mandate
