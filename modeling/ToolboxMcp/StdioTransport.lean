import ToolboxMcp.Library.Framing
import ToolboxMcp.Validation

/-!
# The reader of a downstream process

`stdout_reader` receives the output of the process in chunks cut anywhere,
splits what it has at the newlines, keeps the piece after the last one for the
next chunk and forwards the message, or the parse error, of every other piece.
The parser of messages is a parameter: any function of the line.
-/

namespace ToolboxMcp

/-- `text.split("\n")`. -/
def splitLines (text : String) : List String :=
  (text.toList.splitOn '\n').map String.ofList

/-- The partial line carried over to the next chunk, and what was sent on so
far. -/
structure StdoutReader (Message : Type) where
  buffer : String := ""
  sent : List (Except PyException Message) := []

section Reader

variable {Message : Type}
variable (modelValidateJson : String → Except PyException Message)

/-- One round of the loop over the chunks. -/
def StdoutReader.receive
    (reader : StdoutReader Message) (chunk : String) :
    StdoutReader Message :=
  let lines := splitLines (reader.buffer ++ chunk)
  { buffer := lines.getLastD ""
    sent := reader.sent ++ lines.dropLast.map modelValidateJson }

/-- Everything sent to the read stream for the chunks of an output. -/
def stdoutReader (chunks : List String) : List (Except PyException Message) :=
  (chunks.foldl (StdoutReader.receive modelValidateJson) {}).sent

/-- `text` is `lines`, each ended by a newline, and the unterminated `tail`. -/
def Lines (text : String) (lines : List String) (tail : String) : Prop :=
  Framing.Framed '\n' text.toList (lines.map String.toList) tail.toList

omit modelValidateJson in
theorem Lines.splitLines_eq {text tail : String} {lines : List String}
    (framed : Lines text lines tail) :
    splitLines text = lines ++ [tail] := by
  rw [splitLines, framed.splitOn_eq]
  simp

omit modelValidateJson in
theorem Lines.append {text tail chunk rest : String}
    {lines others : List String}
    (framed : Lines text lines tail)
    (next : Lines (tail ++ chunk) others rest) :
    Lines (text ++ chunk) (lines ++ others) rest := by
  unfold Lines at next ⊢
  rw [String.toList_append] at next
  rw [String.toList_append, List.map_append]
  exact Framing.Framed.append framed next

omit modelValidateJson in
theorem exists_lines (text : String) :
    ∃ lines tail, Lines text lines tail := by
  obtain ⟨frames, tail, framed⟩ := Framing.exists_framed '\n' text.toList
  refine ⟨frames.map String.ofList, String.ofList tail, ?_⟩
  unfold Lines
  simpa using framed

omit modelValidateJson in
theorem Lines.unique {text tail rest : String} {lines others : List String}
    (framed : Lines text lines tail) (framed' : Lines text others rest) :
    others = lines ∧ rest = tail := by
  have same : others ++ [rest] = lines ++ [tail] := by
    rw [← framed.splitLines_eq, ← framed'.splitLines_eq]
  have parts := List.append_inj' same rfl
  exact ⟨parts.1, by simpa using parts.2⟩

/-! ## What the reader has after some chunks -/

/-- The reader has sent on the lines of the text received so far and holds its
unterminated tail. -/
structure StdoutReader.Follows
    (reader : StdoutReader Message) (text : String) : Prop where
  framed :
    ∃ lines, Lines text lines reader.buffer ∧
      reader.sent = lines.map modelValidateJson

theorem StdoutReader.follows_initial :
    ({} : StdoutReader Message).Follows modelValidateJson "" where
  framed := ⟨[], Framing.Framed.nil, rfl⟩

/-- A chunk completes the lines it ends, wherever it is cut. -/
theorem StdoutReader.Follows.receive {reader : StdoutReader Message}
    {text : String} (follows : reader.Follows modelValidateJson text)
    (chunk : String) :
    (reader.receive modelValidateJson chunk).Follows modelValidateJson
      (text ++ chunk) := by
  obtain ⟨lines, framed, sent⟩ := follows.framed
  obtain ⟨others, rest, next⟩ := exists_lines (reader.buffer ++ chunk)
  have pieces : splitLines (reader.buffer ++ chunk) = others ++ [rest] :=
    next.splitLines_eq
  have buffer :
      (reader.receive modelValidateJson chunk).buffer = rest := by
    simp [StdoutReader.receive, pieces]
  refine ⟨lines ++ others, ?_, ?_⟩
  · rw [buffer]
    exact framed.append next
  · simp [StdoutReader.receive, pieces, sent]

theorem StdoutReader.Follows.foldl {reader : StdoutReader Message}
    {text : String} (follows : reader.Follows modelValidateJson text)
    (chunks : List String) :
    (chunks.foldl (StdoutReader.receive modelValidateJson) reader).Follows
      modelValidateJson (text ++ String.join chunks) := by
  induction chunks generalizing reader text with
  | nil => simpa [String.join] using follows
  | cons chunk chunks inductionHypothesis =>
      have next := inductionHypothesis (follows.receive _ chunk)
      rw [String.append_assoc] at next
      simpa [String.join_cons] using next

/-- Whatever the chunks, exactly the terminated lines of the whole text are
forwarded, in order, one item each. -/
theorem stdoutReader_of_lines (chunks : List String) {lines : List String}
    {tail : String} (framed : Lines (String.join chunks) lines tail) :
    stdoutReader modelValidateJson chunks = lines.map modelValidateJson := by
  have follows :=
    (StdoutReader.follows_initial modelValidateJson).foldl _ chunks
  rw [String.empty_append] at follows
  obtain ⟨others, received, sent⟩ := follows.framed
  rw [(received.unique framed).1]
  exact sent

/-- The text has one division into terminated lines and a tail; one item for
each of these lines is forwarded, in order, and any other cutting of the text
forwards the same. -/
theorem stdoutReader_forwards_terminated_lines (chunks : List String) :
    ∃ lines tail,
      Lines (String.join chunks) lines tail ∧
      (∀ others rest, Lines (String.join chunks) others rest →
        others = lines ∧ rest = tail) ∧
      stdoutReader modelValidateJson chunks =
        lines.map modelValidateJson ∧
      ∀ pieces, String.join pieces = String.join chunks →
        stdoutReader modelValidateJson pieces =
          stdoutReader modelValidateJson chunks := by
  obtain ⟨lines, tail, framed⟩ := exists_lines (String.join chunks)
  have forwarded := stdoutReader_of_lines modelValidateJson chunks framed
  refine ⟨lines, tail, framed, ?_, forwarded, ?_⟩
  · intro others rest other
    exact framed.unique other
  · intro pieces same
    rw [forwarded]
    rw [← same] at framed
    exact stdoutReader_of_lines modelValidateJson pieces framed

/-! ## From one end to the other -/

/-- What `stdin_writer` sends for the messages, one line each. -/
def stdinWriter (modelDumpJson : Message → String)
    (messages : List Message) : List String :=
  messages.map fun message => modelDumpJson message ++ "\n"

omit modelValidateJson in
theorem toList_stdinWriter (modelDumpJson : Message → String)
    (messages : List Message) :
    (String.join (stdinWriter modelDumpJson messages)).toList =
      Framing.joined '\n'
        (messages.map fun message => (modelDumpJson message).toList) := by
  unfold stdinWriter Framing.joined
  induction messages with
  | nil =>
      rfl
  | cons message messages inductionHypothesis =>
      rw [List.map_cons, String.join_cons, String.toList_append,
        inductionHypothesis]
      simp

/-- However what was written is cut into chunks, and wherever the pipe breaks:
the reader forwards exactly the messages whose line came through whole, in the
order in which they were written. -/
theorem stdoutReader_stdinWriter {modelDumpJson : Message → String}
    {messages : List Message} {chunks : List String}
    (inverts : ∀ message ∈ messages,
      modelValidateJson (modelDumpJson message) = .ok message)
    (oneLine : ∀ message ∈ messages,
      '\n' ∉ (modelDumpJson message).toList)
    (received :
      (String.join chunks).toList <+:
        (String.join (stdinWriter modelDumpJson messages)).toList) :
    ∃ count ≤ messages.length,
      stdoutReader modelValidateJson chunks =
          (messages.take count).map .ok ∧
        (String.join (stdinWriter modelDumpJson
          (messages.take count))).toList <+: (String.join chunks).toList ∧
        ∀ more, count < more → more ≤ messages.length →
          ¬ (String.join (stdinWriter modelDumpJson
            (messages.take more))).toList <+:
              (String.join chunks).toList := by
  let payload : Message → List Char :=
    fun message => (modelDumpJson message).toList
  have closed : ∀ frame ∈ messages.map payload, '\n' ∉ frame := by
    intro frame member
    obtain ⟨message, sent, rfl⟩ := List.mem_map.mp member
    exact oneLine message sent
  rw [toList_stdinWriter] at received
  obtain ⟨count, bounded, tail, framed⟩ :=
    Framing.framed_of_prefix closed received
  rw [List.length_map] at bounded
  rw [← List.map_take] at framed
  have lines : Lines (String.join chunks)
      ((messages.take count).map modelDumpJson) (String.ofList tail) := by
    unfold Lines
    rw [List.map_map, String.toList_ofList]
    exact framed
  refine ⟨count, bounded, ?_, ?_, ?_⟩
  · rw [stdoutReader_of_lines modelValidateJson chunks lines, List.map_map]
    apply List.map_congr_left
    intro message member
    exact inverts message (List.mem_of_mem_take member)
  · rw [toList_stdinWriter, framed.stream_eq]
    exact List.prefix_append _ _
  · intro more later available
    rw [toList_stdinWriter]
    apply framed.not_prefix
    · exact (List.take_prefix_take_left (Nat.le_of_lt later)).map payload
    · intro same
      have lengths := congrArg List.length same
      rw [List.length_map, List.length_map, List.length_take,
        List.length_take] at lengths
      omega

/-- Two messages are sent and the pipe breaks in the second line. -/
theorem stdoutReader_stdinWriter_broken :
    let parse : String → Except PyException Bool := fun line =>
      if line = "[1]" then .ok true
      else if line = "[0]" then .ok false
      else .error { message := "Invalid JSON" }
    stdoutReader parse ["[", "1]\n[", "0"] = [.ok true] := by
  intro parse
  obtain ⟨count, bounded, read, written, last⟩ :=
    @stdoutReader_stdinWriter _ parse
      (fun reply => if reply then "[1]" else "[0]") [true, false]
      ["[", "1]\n[", "0"] (by decide) (by decide) (by decide)
  have first : ¬ count < 1 :=
    fun fewer => last 1 fewer (by decide) (by decide)
  have second : ¬ 2 ≤ count := by
    intro both
    have all : count = 2 := le_antisymm bounded both
    subst all
    exact absurd written (by decide)
  have one : count = 1 := by
    omega
  rw [read, one]
  rfl

end Reader

end ToolboxMcp
