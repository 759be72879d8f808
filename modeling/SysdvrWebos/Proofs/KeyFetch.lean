/-
Module: SysdvrWebos.Proofs.KeyFetch
Layer: Proofs
Purpose: The key that is fetched does not depend on how the connection cuts the stream up. What is fetched is
  always the first key of the whole stream, although only a front of it is received; and a stream brings its
  key in every case exactly if the first end marker is that of the key and stands within the bytes that are
  received.
Trusted boundary: none (fully proved)
Main exports: KeyComesFirst, receiveKey_front, receiveKey_reaches, key_fetched_whatever_the_chunks
Open obligations: none
-/
import SysdvrWebos.Core.KeyServer

namespace SysdvrWebos

variable {breaks : Option PyText} {chunks : List (List UInt8)} {received stream front out key : List UInt8}

/-! ### The receive loop -/

/-- What is received is a front of the stream. -/
theorem receiveKey_front (ends : receiveKey breaks chunks received = .ok out) :
    out <+: received ++ chunks.flatten := by
  induction chunks generalizing received with
  | nil =>
      rw [List.flatten_nil, List.append_nil]
      unfold receiveKey at ends
      split at ends
      · cases breaks with
        | some exc => cases ends
        | none =>
            cases ends
            exact List.prefix_refl _
      · cases ends
        exact List.prefix_refl _
  | cons chunk chunks ih =>
      unfold receiveKey at ends
      rw [List.flatten_cons, ← List.append_assoc]
      split at ends
      · split at ends
        · cases ends
          exact List.prefix_append _ _
        · exact ih ends
      · cases ends
        rw [List.append_assoc]
        exact List.prefix_append _ _

/-- A front of the stream without the end marker inside is shorter than one with it. -/
theorem length_le_of_marker {first : List UInt8} (isFront : front <+: stream) (isFirst : first <+: stream)
    (unmarked : ¬ keyEnd <:+: front.dropLast) (marked : keyEnd <:+: first) : front.length ≤ first.length := by
  by_contra shorter
  apply unmarked
  have inside : first <+: front.dropLast := by
    apply List.prefix_of_prefix_length_le isFirst ((List.dropLast_prefix front).trans isFront)
    rw [List.length_dropLast]
    omega
  exact marked.trans inside.isInfix

/-- The loop does not end in front of the first end marker, unless the limit stands there. -/
theorem receiveKey_reaches (isFront : front <+: received ++ chunks.flatten) (marked : keyEnd <:+: front)
    (unmarked : ¬ keyEnd <:+: front.dropLast) (fits : front.length ≤ keyLimit)
    (sofar : received.length < front.length) :
    ∃ out, receiveKey breaks chunks received = .ok out ∧ front <+: out := by
  induction chunks generalizing received with
  | nil =>
      rw [List.flatten_nil, List.append_nil] at isFront
      exact absurd isFront.length_le (Nat.not_le.mpr sofar)
  | cons chunk chunks ih =>
      rw [List.flatten_cons, ← List.append_assoc] at isFront
      have isReceived : received ++ chunk <+: received ++ chunk ++ chunks.flatten := List.prefix_append _ _
      rw [receiveKey, if_pos (Nat.lt_of_lt_of_le sofar fits)]
      split
      · next here =>
          have long := length_le_of_marker isFront isReceived unmarked here
          exact ⟨_, rfl, List.prefix_of_prefix_length_le isFront isReceived long⟩
      · next absent =>
          -- the front has the marker, so it goes beyond what was received without it
          apply ih isFront
          by_contra short
          apply absent
          have inside := List.prefix_of_prefix_length_le isFront isReceived (Nat.not_lt.mp short)
          exact marked.trans inside.isInfix

/-- Byte by byte, the loop ends right behind the first end marker or at the limit. -/
theorem receiveKey_bytewise (unmarked : ¬ keyEnd <:+: received) (fits : received.length ≤ keyLimit)
    (ends : receiveKey breaks (stream.map fun byte => [byte]) received = .ok out) :
    ¬ keyEnd <:+: out.dropLast ∧ out.length ≤ keyLimit := by
  have stays : ¬ keyEnd <:+: received.dropLast := fun inside =>
    unmarked (inside.trans (List.dropLast_prefix received).isInfix)
  induction stream generalizing received with
  | nil =>
      rw [List.map_nil] at ends
      unfold receiveKey at ends
      split at ends
      · cases breaks with
        | some exc => cases ends
        | none =>
            cases ends
            exact ⟨stays, fits⟩
      · cases ends
        exact ⟨stays, fits⟩
  | cons byte stream ih =>
      rw [List.map_cons] at ends
      unfold receiveKey at ends
      split at ends
      · next room =>
          have longer : (received ++ [byte]).length ≤ keyLimit := by
            rw [List.length_append]
            exact room
          have before : ¬ keyEnd <:+: (received ++ [byte]).dropLast := by
            rw [List.dropLast_concat]
            exact unmarked
          split at ends
          · cases ends
            exact ⟨before, longer⟩
          · next absent => exact ih absent longer ends before
      · cases ends
        exact ⟨stays, fits⟩

/-! ### The key -/

/-- A front of the stream ends with its first end marker, within the bytes that are received, and the key is
    in there. -/
def KeyComesFirst (stream key : List UInt8) : Prop :=
  ∃ front, front <+: stream ∧ Between.search keyBegin keyEnd front = some key ∧
    ¬ keyEnd <:+: front.dropLast ∧ front.length ≤ keyLimit

theorem keyEnd_ne : keyEnd ≠ [] := by decide

/-- What a fetch comes to. -/
theorem fetchEncryptedKey_ok {ip : PyText} {server : KeyServer} {content : List UInt8}
    (fetched : fetchEncryptedKey ip server = .ok content) :
    ∃ received key, receiveKey server.breaks server.chunks [] = .ok received ∧
      Between.search keyBegin keyEnd received = some key ∧ content = key ++ asciiBytes "\n" := by
  unfold fetchEncryptedKey at fetched
  split at fetched
  · cases fetched
  · split at fetched
    · cases fetched
    · next received isReceived =>
        split at fetched
        · cases fetched
        · next key found =>
            cases fetched
            exact ⟨received, key, isReceived, found, rfl⟩

/-- The first match of a front is the first match of the stream. -/
theorem search_of_front (isFront : front <+: stream) (found : Between.search keyBegin keyEnd front = some key) :
    Between.search keyBegin keyEnd stream = some key := by
  obtain ⟨rest, rfl⟩ := isFront
  exact Between.search_append keyEnd_ne found rest

theorem fetched_of_keyComesFirst (ip : PyText) {server : KeyServer} (there : server.refuses = none)
    (comesFirst : KeyComesFirst server.bytes key) :
    fetchEncryptedKey ip server = .ok (key ++ asciiBytes "\n") := by
  obtain ⟨front, isFront, found, unmarked, fits⟩ := comesFirst
  have marked : keyEnd <:+: front := by
    obtain ⟨⟨body, rfl, ends⟩, inside⟩ := Between.search_spec found
    exact (ends.trans (List.suffix_append _ _)).isInfix.trans inside
  have nonempty : 0 < front.length := by
    apply Nat.lt_of_lt_of_le _ marked.length_le
    decide
  have reached : ∃ received, receiveKey server.breaks server.chunks [] = .ok received ∧ front <+: received :=
    receiveKey_reaches isFront marked unmarked fits nonempty
  obtain ⟨received, isReceived, reaches⟩ := reached
  rw [fetchEncryptedKey, there]
  dsimp only
  rw [isReceived]
  dsimp only
  rw [search_of_front reaches found]

/-- The server that sends one byte at a time. -/
def bytewiseServer (stream : List UInt8) : KeyServer where
  refuses := none
  chunks := stream.map fun byte => [byte]
  chunks_read := by
    intro chunk member
    obtain ⟨byte, _, rfl⟩ := List.mem_map.mp member
    exact ⟨List.cons_ne_nil _ _, by rw [List.length_singleton, keyReadSize]; omega⟩
  breaks := none

theorem bytewiseServer_bytes (stream : List UInt8) : (bytewiseServer stream).bytes = stream := by
  induction stream with
  | nil => rfl
  | cons byte stream ih => exact congrArg (byte :: ·) ih

/-- However a stream is cut up, and whether it is read to its end or not, a fetch that succeeds gives the
    first key of the whole stream and a line end. Every way of cutting it up brings the key exactly if the
    first end marker of the stream is that of the key and stands within the bytes that are received. -/
theorem key_fetched_whatever_the_chunks (ip : PyText) (stream : List UInt8) :
    (∀ server content, server.bytes = stream → fetchEncryptedKey ip server = .ok content →
      ∃ key, Between.search keyBegin keyEnd stream = some key ∧ content = key ++ asciiBytes "\n") ∧
      ∀ key, (∀ server, server.bytes = stream → server.refuses = none →
        fetchEncryptedKey ip server = .ok (key ++ asciiBytes "\n")) ↔ KeyComesFirst stream key := by
  constructor
  · rintro server content rfl fetched
    obtain ⟨received, key, isReceived, found, rfl⟩ := fetchEncryptedKey_ok fetched
    exact ⟨key, search_of_front (receiveKey_front isReceived) found, rfl⟩
  · intro key
    constructor
    · intro always
      have fetched := always (bytewiseServer stream) (bytewiseServer_bytes stream) rfl
      obtain ⟨received, other, isReceived, found, same⟩ := fetchEncryptedKey_ok fetched
      have isFront : received <+: stream := by
        have isFront := receiveKey_front isReceived
        rw [List.nil_append] at isFront
        rwa [← bytewiseServer_bytes stream]
      cases List.append_cancel_right same
      have nothing : ¬ keyEnd <:+: [] := fun inside => keyEnd_ne (List.infix_nil.mp inside)
      obtain ⟨unmarked, fits⟩ := receiveKey_bytewise nothing (Nat.zero_le _) isReceived
      exact ⟨received, isFront, found, unmarked, fits⟩
    · rintro comesFirst server rfl there
      exact fetched_of_keyComesFirst ip there comesFirst

/-- A short key with a line in front of it. -/
def shortKey : List UInt8 := keyBegin ++ asciiBytes "\nA\n" ++ keyEnd

/-- A server that cuts it within its end marker, and breaks off behind it. -/
def cutServer : KeyServer where
  refuses := none
  chunks := [asciiBytes "\n" ++ shortKey.take 45, shortKey.drop 45 ++ asciiBytes "\n"]
  chunks_read := by decide
  breaks := some "timed out".toList

theorem cut_key_is_fetched : fetchEncryptedKey [] cutServer = .ok (shortKey ++ asciiBytes "\n") := by
  apply ((key_fetched_whatever_the_chunks [] cutServer.bytes).2 shortKey).mpr _ cutServer rfl rfl
  exact ⟨asciiBytes "\n" ++ shortKey, by decide, by decide, by decide, by decide⟩

end SysdvrWebos
