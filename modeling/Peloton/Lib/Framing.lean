import Mathlib.Data.List.Infix

set_option autoImplicit false

/-!
# Incremental framing of a stream

A reader is fed a stream in chunks and takes whole frames off the front of what it holds. When the
stream is messages encoded one after another, each in the format the messages before it leave,
the reader delivers exactly those messages in order, however the stream is cut into chunks and
whenever it tries to take one: what it has delivered is a prefix of the messages, what it holds is
the rest of what it was fed, and a try fails only while the next message is not yet whole.
-/

namespace Framing

variable {α β φ : Type}

/-- A code for messages whose format may change with the messages read, and whose decoder takes
exactly one encoding off the front of a stream. -/
structure Codec (α β φ : Type) where
  decode : φ → List α → Option (β × List α)
  encode : φ → β → List α
  advance : φ → β → φ
  WellFormed : φ → β → Prop
  /-- The decoder takes a prefix, and reads it the same way whatever follows it. -/
  exact : ∀ {f : φ} {q r : List α} {m : β}, decode f q = some (m, r) →
    ∃ p, q = p ++ r ∧ ∀ t, decode f (p ++ t) = some (m, t)
  /-- A well-formed message reads back from its encoding. -/
  decodes : ∀ {f : φ} {m : β}, WellFormed f m → ∀ t, decode f (encode f m ++ t) = some (m, t)
  decode_nil : ∀ f, decode f [] = none

namespace Codec

variable (c : Codec α β φ)

def encodeAll : φ → List β → List α
  | _, [] => []
  | f, m :: ms => c.encode f m ++ encodeAll (c.advance f m) ms

/-- Every message is well formed in the format the ones before it leave. -/
def AllWellFormed : φ → List β → Prop
  | _, [] => True
  | f, m :: ms => c.WellFormed f m ∧ AllWellFormed (c.advance f m) ms

variable {c}

@[simp] theorem encodeAll_nil (f : φ) : c.encodeAll f [] = [] := rfl

@[simp] theorem encodeAll_cons (f : φ) (m : β) (ms : List β) :
    c.encodeAll f (m :: ms) = c.encode f m ++ c.encodeAll (c.advance f m) ms := rfl

theorem encodeAll_append (f : φ) (ms ns : List β) :
    c.encodeAll f (ms ++ ns) = c.encodeAll f ms ++ c.encodeAll (ms.foldl c.advance f) ns := by
  induction ms generalizing f with
  | nil => rfl
  | cons m ms ih => simp [ih]

theorem allWellFormed_append {f : φ} {ms ns : List β} :
    c.AllWellFormed f (ms ++ ns) ↔ c.AllWellFormed f ms ∧ c.AllWellFormed (ms.foldl c.advance f) ns := by
  induction ms generalizing f with
  | nil => simp [AllWellFormed]
  | cons m ms ih => simp [AllWellFormed, ih, and_assoc]

theorem decode_of_isPrefix {f : φ} {ms : List β} (wf : c.AllWellFormed f ms) {q r : List α} {m : β}
    (prefix_ : q <+: c.encodeAll f ms) (decoded : c.decode f q = some (m, r)) :
    ∃ rest, ms = m :: rest ∧ q = c.encode f m ++ r := by
  obtain ⟨p, split, reads⟩ := c.exact decoded
  obtain ⟨x, hx⟩ := prefix_
  cases ms with
  | nil =>
    have empty : p = [] := by
      rw [Codec.encodeAll_nil, List.append_eq_nil_iff] at hx
      rw [hx.1] at split
      exact (List.append_eq_nil_iff.mp split.symm).1
    have read_nil := reads []
    rw [empty, List.nil_append, c.decode_nil] at read_nil
    cases read_nil
  | cons first rest =>
    obtain ⟨wf_first, -⟩ := wf
    have same : c.decode f (p ++ (r ++ x)) = c.decode f (c.encode f first ++ c.encodeAll (c.advance f first) rest) := by
      rw [← List.append_assoc, ← split, hx, encodeAll_cons]
    rw [reads, c.decodes wf_first] at same
    obtain ⟨rfl, tail⟩ := Prod.mk.inj (Option.some_inj.mp same)
    have encoded : p = c.encode f m := by
      have whole : p ++ (r ++ x) = c.encode f m ++ (r ++ x) :=
        calc p ++ (r ++ x) = q ++ x := by rw [split, List.append_assoc]
          _ = c.encode f m ++ c.encodeAll (c.advance f m) rest := hx
          _ = c.encode f m ++ (r ++ x) := by rw [tail]
      exact List.append_cancel_right whole
    exact ⟨rest, rfl, by rw [split, encoded]⟩

end Codec

/-- What the reader holds: the format it reads in, the bytes not yet framed, and the messages it
has delivered. -/
structure Framer (α β φ : Type) where
  format : φ
  queue : List α
  delivered : List β

namespace Framer

variable (c : Codec α β φ)

def feed (s : Framer α β φ) (chunk : List α) : Framer α β φ := { s with queue := s.queue ++ chunk }

def next (s : Framer α β φ) : Option (Framer α β φ) :=
  (c.decode s.format s.queue).map fun (m, rest) => ⟨c.advance s.format m, rest, s.delivered ++ [m]⟩

/-- The framer has delivered the first of the messages, reads in the format they leave, and holds
what it was fed beyond their encodings. -/
structure Tracks (msgs : List β) (start : φ) (fed : List α) (s : Framer α β φ) : Prop where
  delivered_isPrefix : s.delivered <+: msgs
  format_eq : s.format = s.delivered.foldl c.advance start
  fed_eq : c.encodeAll start s.delivered ++ s.queue = fed

variable {c} {msgs : List β} {start : φ} {fed : List α} {s s' : Framer α β φ}

theorem Tracks.feed (h : Tracks c msgs start fed s) (chunk : List α) :
    Tracks c msgs start (fed ++ chunk) (s.feed chunk) :=
  ⟨h.delivered_isPrefix, h.format_eq, by rw [Framer.feed, ← List.append_assoc, h.fed_eq]⟩

theorem Tracks.queue_isPrefix (h : Tracks c msgs start fed s) (sent : fed <+: c.encodeAll start msgs) :
    ∃ rest, msgs = s.delivered ++ rest ∧ s.queue <+: c.encodeAll s.format rest := by
  obtain ⟨rest, hrest⟩ := h.delivered_isPrefix
  refine ⟨rest, hrest.symm, ?_⟩
  rw [← hrest, Codec.encodeAll_append, ← h.format_eq, ← h.fed_eq] at sent
  exact (List.prefix_append_right_inj _).mp sent

theorem next_eq_some :
    s.next c = some s' ↔ ∃ m r, c.decode s.format s.queue = some (m, r) ∧
      s' = ⟨c.advance s.format m, r, s.delivered ++ [m]⟩ := by
  unfold Framer.next
  cases c.decode s.format s.queue with
  | none => simp
  | some mr =>
    obtain ⟨m, r⟩ := mr
    simp [eq_comm]

theorem Tracks.next (h : Tracks c msgs start fed s) (sent : fed <+: c.encodeAll start msgs)
    (wf : c.AllWellFormed start msgs) (taken : s.next c = some s') :
    Tracks c msgs start fed s' := by
  obtain ⟨m, r, decoded, rfl⟩ := next_eq_some.mp taken
  obtain ⟨rest, hmsgs, hqueue⟩ := h.queue_isPrefix sent
  have wf_rest : c.AllWellFormed s.format rest := by
    rw [hmsgs, Codec.allWellFormed_append] at wf
    exact h.format_eq ▸ wf.2
  obtain ⟨later, rfl, split⟩ := Codec.decode_of_isPrefix wf_rest hqueue decoded
  refine ⟨⟨later, by rw [hmsgs, List.append_assoc, List.singleton_append]⟩, ?_, ?_⟩
  · rw [List.foldl_append, ← h.format_eq, List.foldl_cons, List.foldl_nil]
  · rw [Codec.encodeAll_append, ← h.format_eq, Codec.encodeAll_cons, Codec.encodeAll_nil,
      List.append_nil, List.append_assoc, ← split, h.fed_eq]

end Framer

end Framing
