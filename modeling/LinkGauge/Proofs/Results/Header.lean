import LinkGauge.Proofs.TextMap
import LinkGauge.Results.Header
import Mathlib.Data.List.Nodup

/-!
# The two parts of a header

The keys of a header's entries differ before they are put together: those of the server begin
with its mark and those of the client do not, a key that the client repeats is dropped, and the
labels of the server differ from its other entries by a mark of their own. So no entry takes the
place of another, and neither part of a header depends on the other
(`TestFacts.header_parts`).
-/

namespace LinkGauge

namespace Header

private theorem isServerKey_iff {key : String} :
    isServerKey key = true ↔ ∃ rest, key = serverMark ++ rest := by
  rw [isServerKey, List.isPrefixOf_iff_prefix]
  constructor
  · rintro ⟨rest, joined⟩
    refine ⟨String.ofList rest, String.toList_inj.mp ?_⟩
    rw [String.toList_append, String.toList_ofList, joined]
  · rintro ⟨rest, rfl⟩
    rw [String.toList_append]
    exact List.prefix_append _ _

private theorem isServerKey_eq_false {key : String} :
    isServerKey key = false ↔ ∀ rest, key ≠ serverMark ++ rest := by
  rw [← Bool.not_eq_true, isServerKey_iff, not_exists]

private theorem mem_clientEntries {query : List (String × String)} {entry : String × String} :
    entry ∈ clientEntries query ↔
      isServerKey entry.1 = false ∧ entry ∈ query ∧
        query.countP (fun other => other.1 == entry.1) = 1 := by
  rw [clientEntries, List.mem_filter, Bool.and_eq_true, Bool.not_eq_true', beq_iff_eq]
  exact and_left_comm

private theorem nodup_clientEntries (query : List (String × String)) :
    ((clientEntries query).map (·.1)).Nodup := by
  rw [List.nodup_iff_count_le_one]
  intro key
  by_cases present : key ∈ (clientEntries query).map (·.1)
  · obtain ⟨entry, member, rfl⟩ := List.mem_map.mp present
    have once := (mem_clientEntries.mp member).2.2
    rw [List.count_eq_countP, List.countP_map]
    exact Nat.le_trans (List.filter_sublist.countP_le) (Nat.le_of_eq once)
  · rw [List.count_eq_zero.mpr present]
    exact Nat.zero_le 1

private theorem clientEntries_perm {query permuted : List (String × String)}
    (same : permuted.Perm query) {entry : String × String} :
    entry ∈ clientEntries permuted ↔ entry ∈ clientEntries query := by
  rw [mem_clientEntries, mem_clientEntries, same.mem_iff, same.countP_eq]

end Header

namespace TestFacts

open Header

variable (t : TestFacts)

/-- What the server says of every test, without its mark. -/
def facts : List (String × String) :=
  [("name", Service.name), ("version", Service.version),
    ("local_endpoint", t.localEnd.toText), ("remote_endpoint", t.remoteEnd.toText),
    ("subtest", t.subtest.name), ("uuid", t.uuid), ("start_time", t.start.toOffsetText)]

/-- The server's entries without its mark. -/
def unmarked : List (String × String) :=
  t.facts ++ t.labels.entries.map fun (key, value) => ("label_" ++ key, value)

private theorem entries_eq :
    t.entries = t.unmarked.map fun entry => (serverMark ++ entry.1, entry.2) := by
  have labels : (t.labels.entries.map fun (key, value) => ("server_label_" ++ key, value)) =
      (t.labels.entries.map fun (key, value) => ("label_" ++ key, value)).map
        fun entry => (serverMark ++ entry.1, entry.2) := by
    have mark : "server_label_" = serverMark ++ "label_" := rfl
    rw [List.map_map]
    apply List.map_congr_left
    rintro ⟨key, value⟩ _
    change ("server_label_" ++ key, value) = (serverMark ++ ("label_" ++ key), value)
    rw [mark, String.append_assoc]
  rw [entries, labels, unmarked, List.map_append]
  rfl

private theorem nodup_unmarked : (t.unmarked.map (·.1)).Nodup := by
  have split : t.unmarked.map (·.1) =
      ["name", "version", "local_endpoint", "remote_endpoint", "subtest", "uuid", "start_time"] ++
        (t.labels.entries.map (·.1)).map ("label_" ++ ·) := by
    rw [unmarked, List.map_append, List.map_map, List.map_map]
    rfl
  have labels : ((t.labels.entries.map (·.1)).map ("label_" ++ ·)).Nodup :=
    t.labels.nodup_keys.map fun first second same => (String.append_right_inj _).mp same
  have apart : ∀ key ∈ ["name", "version", "local_endpoint", "remote_endpoint", "subtest", "uuid",
      "start_time"], ¬ ("label_".toList <+: key.toList) := by decide
  rw [split]
  refine List.nodup_append.mpr ⟨by decide, labels, ?_⟩
  rintro key fact _ label rfl
  obtain ⟨rest, _, rfl⟩ := List.mem_map.mp label
  refine apart _ fact ?_
  rw [String.toList_append]
  exact List.prefix_append _ _

private theorem mem_unmarked {key value : String} :
    (key, value) ∈ t.unmarked ↔
      (key, value) ∈ t.facts ∨
        ∃ label, key = "label_" ++ label ∧ (label, value) ∈ t.labels.entries := by
  rw [unmarked, List.mem_append, List.mem_map]
  refine or_congr_right ⟨?_, ?_⟩
  · rintro ⟨⟨label, _⟩, member, same⟩
    cases same
    exact ⟨label, rfl, member⟩
  · rintro ⟨label, rfl, member⟩
    exact ⟨(label, value), member, rfl⟩

private theorem mem_entries {key value : String} :
    (serverMark ++ key, value) ∈ t.entries ↔ (key, value) ∈ t.unmarked := by
  rw [entries_eq, List.mem_map]
  constructor
  · rintro ⟨entry, member, same⟩
    obtain ⟨sameKey, rfl⟩ := Prod.mk.inj same
    obtain rfl := (String.append_right_inj _).mp sameKey
    exact member
  · exact fun member => ⟨(key, value), member, rfl⟩

private theorem isServerKey_of_mem_entries {entry : String × String} (member : entry ∈ t.entries) :
    isServerKey entry.1 = true := by
  rw [entries_eq] at member
  obtain ⟨unmarked, _, rfl⟩ := List.mem_map.mp member
  exact isServerKey_iff.mpr ⟨unmarked.1, rfl⟩

private theorem nodup_keys_entries : (t.entries.map (·.1)).Nodup := by
  have marked : t.entries.map (·.1) = (t.unmarked.map (·.1)).map (serverMark ++ ·) := by
    rw [entries_eq, List.map_map, List.map_map]
    rfl
  rw [marked]
  exact t.nodup_unmarked.map fun first second same => (String.append_right_inj _).mp same

variable (query : List (String × String))

/-- Every entry of either part is in the header. -/
theorem mem_header {entry : String × String} :
    entry ∈ (t.header query).entries ↔ entry ∈ clientEntries query ∨ entry ∈ t.entries := by
  have distinct : ((clientEntries query ++ t.entries).map (·.1)).Nodup := by
    rw [List.map_append]
    refine List.nodup_append.mpr ⟨nodup_clientEntries query, t.nodup_keys_entries, ?_⟩
    rintro key client _ server rfl
    obtain ⟨first, ours, rfl⟩ := List.mem_map.mp client
    obtain ⟨second, theirs, same⟩ := List.mem_map.mp server
    have marked := t.isServerKey_of_mem_entries theirs
    rw [same, (mem_clientEntries.mp ours).1] at marked
    exact Bool.false_ne_true marked
  rw [header, TextMap.mem_ofList distinct, List.mem_append]

private theorem mem_serverPart {entry : String × String} :
    entry ∈ ((t.header query).filterKeys isServerKey).entries ↔ entry ∈ t.entries := by
  change entry ∈ (t.header query).entries.filter _ ↔ _
  rw [List.mem_filter, mem_header]
  constructor
  · rintro ⟨client | server, marked⟩
    · rw [(mem_clientEntries.mp client).1] at marked
      exact absurd marked Bool.false_ne_true
    · exact server
  · exact fun server => ⟨.inr server, t.isServerKey_of_mem_entries server⟩

private theorem mem_clientPart {entry : String × String} :
    entry ∈ (clientPart (t.header query)).entries ↔ entry ∈ clientEntries query := by
  change entry ∈ (t.header query).entries.filter _ ↔ _
  rw [List.mem_filter, mem_header, Bool.not_eq_true']
  constructor
  · rintro ⟨client | server, unmarked⟩
    · exact client
    · rw [t.isServerKey_of_mem_entries server] at unmarked
      exact nomatch unmarked
  · exact fun client => ⟨.inl client, (mem_clientEntries.mp client).1⟩

private theorem mem_header_marked {key value : String} :
    (serverMark ++ key, value) ∈ (t.header query).entries ↔ (key, value) ∈ t.unmarked := by
  rw [mem_header, mem_entries]
  refine or_iff_right fun client => ?_
  exact isServerKey_eq_false.mp (mem_clientEntries.mp client).1 key rfl

private theorem mem_header_unmarked {key value : String}
    (noMark : ∀ rest, key ≠ serverMark ++ rest) :
    (key, value) ∈ (t.header query).entries ↔
      (key, value) ∈ query ∧ query.countP (fun other => other.1 == key) = 1 := by
  have unmarked := isServerKey_eq_false.mpr noMark
  rw [mem_header, or_iff_left, mem_clientEntries]
  · exact and_iff_right unmarked
  · intro server
    have marked := t.isServerKey_of_mem_entries server
    exact Bool.false_ne_true (unmarked.symm.trans marked)

private theorem length_serverPart :
    ((t.header query).filterKeys isServerKey).entries.length =
      t.facts.length + t.labels.entries.length := by
  have same : ((t.header query).filterKeys isServerKey).entries.Perm t.entries :=
    (List.perm_ext_iff_of_nodup (TextMap.nodup_entries _) t.nodup_keys_entries.of_map).mpr
      fun _ => t.mem_serverPart query
  rw [same.length_eq, entries_eq, List.length_map, unmarked, List.length_append, List.length_map]

/-- **The parts of a header keep apart.** The entries whose keys have the server's mark are what
the server says of every test and one entry for each label, as many as these are, whatever the
query is. The other entries are the pairs of the query whose keys do not have the mark and stand
once in it, whatever the test is; these are the client's part. The order of the query does not
matter. -/
theorem header_parts :
    (∀ key value, ("server_" ++ key, value) ∈ (t.header query).entries ↔
      (key, value) ∈ t.facts ∨
        ∃ label, key = "label_" ++ label ∧ (label, value) ∈ t.labels.entries) ∧
    ((t.header query).filterKeys isServerKey).entries.length =
      7 + t.labels.entries.length ∧
    (∀ other, (t.header other).filterKeys isServerKey = (t.header query).filterKeys isServerKey) ∧
    (∀ key value, (∀ rest, key ≠ "server_" ++ rest) →
      ((key, value) ∈ (t.header query).entries ↔
        (key, value) ∈ query ∧ query.countP (fun other => other.1 == key) = 1)) ∧
    (∀ key value, (key, value) ∈ (clientPart (t.header query)).entries ↔
      (key, value) ∈ (t.header query).entries ∧ ∀ rest, key ≠ "server_" ++ rest) ∧
    (∀ other : TestFacts, clientPart (other.header query) = clientPart (t.header query)) ∧
    ∀ permuted, permuted.Perm query → t.header permuted = t.header query := by
  refine ⟨?_, t.length_serverPart query, ?_, ?_, ?_, ?_, ?_⟩
  · intro key value
    exact (t.mem_header_marked query).trans t.mem_unmarked
  · intro other
    refine TextMap.ext_of_mem fun entry => ?_
    rw [mem_serverPart, mem_serverPart]
  · intro key value noMark
    exact t.mem_header_unmarked query noMark
  · intro key value
    change (key, value) ∈ (t.header query).entries.filter _ ↔ _
    rw [List.mem_filter, Bool.not_eq_true', isServerKey_eq_false]
    rfl
  · intro other
    refine TextMap.ext_of_mem fun entry => ?_
    rw [mem_clientPart, mem_clientPart]
  · intro permuted same
    refine TextMap.ext_of_mem fun entry => ?_
    rw [mem_header, mem_header, clientEntries_perm same]

end TestFacts

end LinkGauge
