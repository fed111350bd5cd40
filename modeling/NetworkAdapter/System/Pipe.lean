import NetworkAdapter.System.Framing

/-!
# One direction of a connection that may break off

A pipe holds the bytes on their way and those in the reader's buffer. Bytes arrive in
pieces of any size; when the connection goes down the bytes on their way are lost, and the
reader meets the end of the stream or an exception behind whatever has arrived. Each
`readline` takes the next message whole or, once, at the end of a broken stream, a part of
it that does not load: no message is read twice and none is read that was not written.
-/

namespace NetworkAdapter

/-- How a stream ends under its reader. -/
inductive Ending where
  /-- `feed_eof`: the reader still gets what is in its buffer. -/
  | closed
  /-- `set_exception`: every read raises. -/
  | reset
deriving DecidableEq

/-- `unread` only records the messages written and not yet taken from the stream. -/
structure Pipe where
  inFlight : List UInt8
  buffer : List UInt8
  ending : Option Ending
  unread : List Json

/-- The text of a message without its newline. -/
def JsonText.text (json : JsonText) (message : Json) : List UInt8 :=
  Text.encode (json.dumps message)

/-- What the library promises of a message: it is an object that can be sent, and a text
that breaks off inside of it does not load. -/
def JsonText.Whole (json : JsonText) (message : Json) : Prop :=
  ∃ fields, message = .obj fields ∧ json.Sendable fields ∧
    ∀ part, part <+: json.text message → part ≠ json.text message →
      ∃ error, json.codec.parse part = .error error

/-- What `json.loads` does with an empty text. -/
def JsonText.RejectsEmpty (json : JsonText) : Prop :=
  ∃ error, json.codec.parse [] = .error error

/-- A library which loads these texts only, none of which is a part of this one, does not load
a text that breaks off inside of it. -/
theorem JsonText.Whole.of_texts {json : JsonText} {fields : JsonObject} (texts : List String)
    (sendable : json.Sendable fields)
    (known : ∀ text message, json.loads text = .ok message → text ∈ texts)
    (apart : ∀ text ∈ texts, Text.encode text <:+: json.text (.obj fields) →
      text = json.dumps (.obj fields)) : json.Whole (.obj fields) := by
  refine ⟨fields, rfl, sendable, fun part begins short => ?_⟩
  cases loads : json.codec.parse part with
  | error error => exact ⟨error, rfl⟩
  | ok message =>
      -- What is loaded is found in the part, so it is the text itself, which is longer.
      exfalso
      simp only [JsonText.codec, TextCodec.parse] at loads
      cases decodes : Text.decode part with
      | error error =>
          rw [decodes] at loads
          cases loads
      | ok text =>
          rw [decodes] at loads
          have loaded : json.loads (Text.strip text) = .ok message := loads
          have inside : Text.encode (Text.strip text) <:+: part :=
            Text.encode_decode decodes ▸ Text.encode_infix (Text.strip_infix text)
          have same := apart _ (known _ _ loaded) (inside.trans begins.isInfix)
          have length := inside.length_le
          rw [same] at length
          exact short (begins.eq_of_length_le length)

namespace Pipe

def empty : Pipe := ⟨[], [], none, []⟩

/-- The bytes of a message are written. After the end they go nowhere. -/
def write (message : Json) (line : List UInt8) (pipe : Pipe) : Pipe :=
  match pipe.ending with
  | none =>
      { pipe with inFlight := pipe.inFlight ++ line, unread := pipe.unread ++ [message] }
  | some _ => pipe

/-- This many bytes arrive as one chunk. -/
def arrive (count : Nat) (pipe : Pipe) : Pipe :=
  { pipe with
    inFlight := pipe.inFlight.drop count
    buffer := pipe.buffer ++ pipe.inFlight.take count }

/-- The connection goes down. -/
def cut (ending : Ending) (pipe : Pipe) : Pipe :=
  { pipe with inFlight := [], ending := some ending }

/-- What `readline` meets, with the pipe it leaves; nothing while it has to wait. A buffer
beyond the limit is given up like the rest of a stream. -/
def next (pipe : Pipe) : Option (Readline × Pipe) :=
  if pipe.ending = some .reset then some (.failed, pipe)
  else
    match Lines.splitLine? Text.newline pipe.buffer with
    | some (raw, behind) =>
        some (.line raw, { pipe with buffer := behind, unread := pipe.unread.tail })
    | none =>
        if pipe.ending = some .closed ∨ Readline.limit < pipe.buffer.length then
          some (.endOfStream pipe.buffer, { pipe with buffer := [], unread := pipe.unread.tail })
        else none

/-- The messages as they were written, one after another. -/
def stream (json : JsonText) (messages : List Json) : List UInt8 :=
  Lines.stream Text.newline (messages.map json.text)

/-- What has not been read are the messages unread, up to where the connection broke off. -/
structure Flows (json : JsonText) (pipe : Pipe) : Prop where
  part : pipe.buffer ++ pipe.inFlight <+: stream json pipe.unread
  whole : pipe.ending = none → pipe.buffer ++ pipe.inFlight = stream json pipe.unread
  stopped : pipe.ending ≠ none → pipe.inFlight = []

variable {json : JsonText}

theorem stream_append (first second : List Json) :
    stream json (first ++ second) = stream json first ++ stream json second := by
  rw [stream, List.map_append, Lines.stream_append, stream, stream]

/-- Between its braces a message has no space to strip, nor has its line but the newline. -/
theorem parse_text {message : Json} (whole : json.Whole message) :
    json.codec.parse (json.text message) = .ok message := by
  obtain ⟨fields, rfl, sendable, _⟩ := whole
  obtain ⟨inner, text⟩ := sendable.braced
  have characters : (json.dumps (.obj fields)).toList = ('\x7b' :: inner.toList) ++ ['\x7d'] := by
    simp [text]
  have stripped : Text.strip (json.dumps (.obj fields)) = json.dumps (.obj fields) := by
    refine Text.strip_eq_self (fun character found => ?_) (fun character found => ?_)
    · obtain rfl : '\x7b' = character := by simpa [characters] using found
      decide
    · obtain rfl : '\x7d' = character := by simpa only [characters, List.getLast?_concat,
        Option.mem_def, Option.some.injEq] using found
      decide
  simp only [JsonText.codec, JsonText.text, TextCodec.parse, Text.decode_encode]
  show json.loads (Text.strip _) = _
  rw [stripped, sendable.undone]

theorem parse_line {message : Json} (whole : json.Whole message) :
    json.codec.parse (json.text message ++ [Text.newline]) = .ok message := by
  obtain ⟨fields, rfl, sendable, _⟩ := whole
  exact Link.parse_line sendable

theorem text_free {message : Json} (whole : json.Whole message) :
    Text.newline ∉ json.text message := by
  obtain ⟨fields, rfl, sendable, _⟩ := whole
  exact fun member => sendable.newlineFree (Text.newline_mem_encode member)

theorem text_within {message : Json} (whole : json.Whole message) :
    (json.text message).length ≤ Readline.limit := by
  obtain ⟨fields, rfl, sendable, _⟩ := whole
  exact sendable.within

theorem empty_flows : Flows json empty :=
  ⟨List.prefix_rfl, fun _ => rfl, fun ended => absurd rfl ended⟩

theorem Flows.write {pipe : Pipe} (flows : Flows json pipe) (message : Json) :
    Flows json (pipe.write message (json.text message ++ [Text.newline])) := by
  unfold Pipe.write
  split
  · next live =>
      have now : pipe.buffer ++ (pipe.inFlight ++ (json.text message ++ [Text.newline])) =
          stream json (pipe.unread ++ [message]) := by
        rw [← List.append_assoc, flows.whole live, stream_append]
        simp [stream, Lines.stream]
      exact ⟨now ▸ List.prefix_rfl, fun _ => now, fun ended => absurd live ended⟩
  · exact flows

theorem Flows.arrive {pipe : Pipe} (flows : Flows json pipe) (count : Nat) :
    Flows json (pipe.arrive count) := by
  have same : (pipe.arrive count).buffer ++ (pipe.arrive count).inFlight =
      pipe.buffer ++ pipe.inFlight := by
    simp [Pipe.arrive, List.append_assoc]
  refine ⟨same ▸ flows.part, fun live => same ▸ flows.whole live, fun ended => ?_⟩
  simp [Pipe.arrive, flows.stopped ended]

theorem Flows.cut {pipe : Pipe} (flows : Flows json pipe) (ending : Ending) :
    Flows json (pipe.cut ending) := by
  refine ⟨?_, by simp [Pipe.cut], fun _ => rfl⟩
  have shorter : pipe.buffer <+: stream json pipe.unread :=
    (List.prefix_append _ _).trans flows.part
  simpa [Pipe.cut] using shorter

/-- What a read yields. -/
inductive Reads (json : JsonText) (pipe : Pipe) (read : Readline) (rest : Pipe) : Prop where
  /-- The message that has waited longest. -/
  | message {message : Json} (waiting : pipe.unread = message :: rest.unread)
      (loads : read.result.bind json.codec.parse = .ok message)
      (raw : pipe.ending = none → read = .line (json.text message ++ [Text.newline]))
  /-- Nothing that loads, from a connection that has gone down. -/
  | nothing (error : PyError) (lost : rest.unread <:+ pipe.unread)
      (loads : read.result.bind json.codec.parse = .error error) (ended : pipe.ending ≠ none)

/-- A broken stream holds a part of the message that has waited longest. -/
theorem Flows.partOf {pipe : Pipe} (flows : Flows json pipe)
    (whole : ∀ message ∈ pipe.unread, json.Whole message) {message : Json} {later : List Json}
    (waiting : pipe.unread = message :: later) :
    (∃ behind, Lines.splitLine? Text.newline pipe.buffer =
        some (json.text message ++ [Text.newline], behind) ∧
      behind ++ pipe.inFlight <+: stream json later ∧
        (pipe.ending = none → behind ++ pipe.inFlight = stream json later)) ∨
    (Lines.splitLine? Text.newline pipe.buffer = none ∧ pipe.buffer <+: json.text message) := by
  have free := text_free (whole message (by simp [waiting]))
  obtain ⟨missing, complete⟩ := flows.part
  have ahead : pipe.buffer ++ (pipe.inFlight ++ missing) =
      Lines.stream Text.newline (json.text message :: later.map json.text) := by
    rw [← List.append_assoc, complete, waiting]
    rfl
  rcases Lines.splitLine?_of_stream free ahead with ⟨behind, found, rest⟩ | waits
  · refine .inl ⟨behind, found, ⟨missing, ?_⟩, fun live => ?_⟩
    · rw [List.append_assoc]
      exact rest
    · have nothing : missing = [] := by
        rw [flows.whole live] at complete
        exact List.append_right_eq_self.mp complete
      rw [nothing, List.append_nil] at rest
      exact rest
  · exact .inr waits

/-- The rest of a broken stream is nothing, a message without its newline, or a part of one. -/
theorem Flows.rest {pipe : Pipe} (flows : Flows json pipe)
    (whole : ∀ message ∈ pipe.unread, json.Whole message) (rejects : json.RejectsEmpty)
    (ended : pipe.ending ≠ none)
    (cut : Lines.splitLine? Text.newline pipe.buffer = none) :
    Reads json pipe (.endOfStream pipe.buffer)
      { pipe with buffer := [], unread := pipe.unread.tail } := by
  cases waiting : pipe.unread with
  | nil =>
      have none : pipe.buffer = [] := by
        have all := flows.part
        rw [waiting] at all
        exact (List.append_eq_nil_iff.mp (List.prefix_nil.mp all)).1
      obtain ⟨error, fails⟩ := rejects
      refine .nothing error (by simp) ?_ ended
      rw [none]
      exact fails
  | cons message later =>
      have loadable := whole message (by simp [waiting])
      rcases flows.partOf whole waiting with ⟨behind, found, _⟩ | ⟨_, part⟩
      · rw [cut] at found
        cases found
      · have short : ¬ Readline.limit < pipe.buffer.length := by
          have := part.length_le
          have := text_within loadable
          omega
        by_cases complete : pipe.buffer = json.text message
        · refine .message waiting ?_ fun live => absurd live ended
          rw [Readline.result, if_neg short, complete]
          exact parse_text loadable
        · obtain ⟨_, _, _, truncated⟩ := loadable
          obtain ⟨error, fails⟩ := truncated _ part complete
          refine .nothing error ?_ ?_ ended
          · rw [waiting]
            exact List.suffix_cons _ _
          · rw [Readline.result, if_neg short]
            exact fails

/-- What a read yields, and that the stream goes on behind it. -/
theorem Flows.next {pipe rest : Pipe} {read : Readline} (flows : Flows json pipe)
    (whole : ∀ message ∈ pipe.unread, json.Whole message) (rejects : json.RejectsEmpty)
    (reads : pipe.next = some (read, rest)) : Flows json rest ∧ Reads json pipe read rest := by
  unfold Pipe.next at reads
  split at reads
  · next reset =>
      cases reads
      exact ⟨flows, .nothing _ (List.suffix_refl _) (by simp [Readline.result, Except.bind]; rfl)
        (by simp [reset])⟩
  · split at reads
    · next raw behind found =>
        cases reads
        cases waiting : pipe.unread with
        | nil =>
            -- Behind the last message there is no newline.
            have all := flows.part
            rw [waiting] at all
            have none := (List.append_eq_nil_iff.mp (List.prefix_nil.mp all)).1
            rw [none] at found
            cases found
        | cons message later =>
            have loadable := whole message (by simp [waiting])
            rcases flows.partOf whole waiting with ⟨left, line, part, live⟩ | ⟨none, _⟩
            · rw [found] at line
              cases line
              refine ⟨⟨part, live, flows.stopped⟩, .message waiting ?_ fun _ => rfl⟩
              have within :
                  ¬ Readline.limit + 1 < (json.text message ++ [Text.newline]).length := by
                have := text_within loadable
                simpa using this
              rw [Readline.result, if_neg within]
              exact parse_line loadable
            · rw [found] at none
              cases none
    · next cut =>
        split at reads
        · next ended =>
            cases reads
            have ended : pipe.ending ≠ none := by
              rcases ended with closed | long
              · simp [closed]
              · intro live
                cases waiting : pipe.unread with
                | nil =>
                    have all := flows.whole live
                    rw [waiting] at all
                    have none := (List.append_eq_nil_iff.mp all).1
                    simp [none] at long
                | cons message later =>
                    rcases flows.partOf whole waiting with ⟨behind, found, _⟩ | ⟨_, part⟩
                    · rw [cut] at found
                      cases found
                    · have := part.length_le
                      have := text_within (whole message (by simp [waiting]))
                      omega
            refine ⟨⟨?_, fun live => absurd live ended, fun _ => flows.stopped ended⟩,
              flows.rest whole rejects ended cut⟩
            simp [flows.stopped ended]
        · cases reads

end Pipe
end NetworkAdapter
