import CallTree.Model.Response
import CallTree.Proofs.Metadata

/-!
# Answers in parts

A client sends an answer in chunks, each with the contents of some choices, which may be empty or
missing, and may break off with a failure after any of them. On the way to the caller the contents
pass through three hands. The transport leaves out what is empty or missing, the exchange puts an
event before the first part and one with their number after the last, and the response encodes each
part. Nothing of the text is lost or added on the way, however the client cuts it into chunks and
wherever it breaks off (`explanation_streamed`).

## Parts of a failed answer

An answer that breaks off is a failure, and a failure gives no value. But what was given out before
is in the trace, among the events, and the trace is there also when an effect fails. So all is said
of the trace: it is the event at the beginning, the parts, and the event at the end (`stream_run`).
-/

namespace CallTree

open Report

variable {σ θ τ ε ς : Type}

/-! ## Texts in parts -/

/-- The contents that a client has sent, as far as there are any, in order. -/
def PartialCompletions.contents (answer : PartialCompletions) : List String :=
  answer.parts.flatten.filterMap id

/-- What the transport leaves out holds no characters. -/
theorem Client.flatMap_toList_textParts (answer : PartialCompletions) :
    (textParts answer.parts).flatMap String.toList = answer.contents.flatMap String.toList := by
  rw [textParts, ← PartialCompletions.contents]
  induction answer.contents with
  | nil => rfl
  | cons s ss ih =>
    by_cases hs : s = ""
    · rw [List.filter_cons_of_neg (by simp [hs]), ih, List.flatMap_cons, hs]
      rfl
    · rw [List.filter_cons_of_pos (by simp [hs]), List.flatMap_cons, List.flatMap_cons, ih]

/-- Encoding texts one by one gives the encoding of their characters. -/
theorem foldl_append_toUTF8 (ss : List String) (bytes : ByteArray) :
    (ss.map String.toUTF8).foldl (· ++ ·) bytes =
      bytes ++ (ss.flatMap String.toList).utf8Encode := by
  induction ss generalizing bytes with
  | nil => simp
  | cons s ss ih =>
    rw [List.map_cons, List.foldl_cons, ih, List.flatMap_cons, List.utf8Encode_append,
      String.utf8Encode_toList, ByteArray.append_assoc]
    rfl

/-! ## Events around the parts -/

/-- The name of the event after the last part. -/
def streamClosing : Except Fault Unit → String
  | .ok () => "model.stream.completed"
  | .error e => if e = .cancelled then "model.stream.cancelled" else "model.stream.failed"

/-- What that event says of a failure. -/
def failureDetails : Except Fault Unit → List (String × Value)
  | .ok () => []
  | .error e => if e = .cancelled then [] else [("error", .str (summary e))]

/-- The event after the last part. -/
def streamClosed (ending : Except Fault Unit) (started finished : Float) (count : Nat) : Event :=
  ⟨streamClosing ending, ("latency_ms", elapsed started finished) :: ("chunks", .int count) ::
    failureDetails ending⟩

/-- The number of parts stays in the event that is sent out. -/
theorem chunks_mem_record (ending : Except Fault Unit) (started finished : Float) (count : Nat)
    (allowContent : Bool) : (.str "chunks", .int count) ∈
      ((streamClosed ending started finished count).record allowContent).attributes := by
  have hkey : redactItem allowContent (.str "chunks") (.int count) = .int count := by
    have hcredential : matchesKey (normalKey (Value.str "chunks").plainText) credentialKeys =
        false := by cbv
    have hcontent : matchesKey (normalKey (Value.str "chunks").plainText) contentKeys = false := by
      cbv
    rw [redactItem, hcredential, hcontent, Bool.and_false]
    rfl
  have hdistinct :
      ((streamClosed ending started finished count).attributes.map Prod.fst).Nodup := by
    rcases ending with e | u
    · by_cases he : e = .cancelled <;> simp [streamClosed, failureDetails, he]
    · simp [streamClosed, failureDetails]
  have hmem : ("chunks", .int count) ∈
      (streamClosed ending started finished count).attributes := by simp [streamClosed]
  rw [← hkey]
  exact mem_attributes_record hdistinct hmem allowContent

theorem closeStream_run (sv : Services σ θ τ) (started : Float) (count : Nat)
    (ending : Except Fault Unit) (w : World σ θ τ) :
    closeStream sv started count ending w =
      ⟨ending, { w with clock := (sv.clock.now w.clock).2 },
        [streamClosed ending started (sv.clock.now w.clock).1 count]⟩ := by
  rcases ending with e | u
  · cases e <;> rfl
  · rfl

/-- What giving out parts leaves: the parts in the trace, and their number. -/
theorem giveOut_run {β : Type} (bs : List β) (n : Nat) (w : World σ θ τ) :
    (giveOut bs n : Feed σ θ τ ε β Nat) w = ⟨.ok (n + bs.length), w, bs.map .part⟩ := by
  induction bs generalizing n with
  | nil => rfl
  | cons b bs ih =>
    have hrest := ih (n + 1)
    rw [Nat.add_assoc, Nat.add_comm 1] at hrest
    show giveOut (b :: bs) n w = ⟨_, _, [.part b] ++ bs.map .part⟩
    exact bind_run rfl hrest

theorem openStream_run {sv : Services σ θ τ} {request : Request} {w : World σ θ τ} {d : Delivery}
    {s : θ} (h : sv.transport.stream request w.transport = (d, s)) :
    openStream sv request w =
      ⟨.ok (sv.clock.reading 0 w.clock, d), ⟨w.provider, s, sv.clock.after 1 w.clock⟩,
        [⟨"model.stream.started", [("request", .record request)]⟩]⟩ := by
  show _ = (⟨_, _, [] ++ ([_] ++ ([] ++ []))⟩ : Outcome _ _ _ _)
  refine bind_run rfl (bind_run rfl (bind_run ?_ rfl))
  simp only [Flow.askTransport, h]
  rfl

/-- **What an exchange in parts does**: it fails as the delivery does, and what is seen of it is an
event, the parts, and an event. -/
theorem stream_run {sv : Services σ θ τ} {request : Request} {w : World σ θ τ} {d : Delivery}
    {s : θ} (h : sv.transport.stream request w.transport = (d, s)) :
    stream sv request w =
      ⟨d.ending, ⟨w.provider, s, sv.clock.after 2 w.clock⟩,
        .event ⟨"model.stream.started", [("request", .record request)]⟩ :: (d.parts.map .part ++
          [.event (streamClosed d.ending (sv.clock.reading 0 w.clock) (sv.clock.reading 1 w.clock)
            d.parts.length)])⟩ := by
  have hopen : (openStream sv request).tracedAs Sight.event w =
      (⟨.ok (sv.clock.reading 0 w.clock, d), ⟨w.provider, s, sv.clock.after 1 w.clock⟩,
        [.event ⟨"model.stream.started", [("request", .record request)]⟩]⟩ :
        Outcome _ Fault (Sight String) _) := by
    rw [Effect.tracedAs, openStream_run h]
    rfl
  refine bind_run hopen (bind_run (giveOut_run d.parts 0 _) ?_)
  rw [Nat.zero_add, Effect.tracedAs, closeStream_run]
  rfl

/-! ## Explanations -/

/-- An explanation in parts is the exchange with the parts encoded. -/
theorem explainInParts_run (sv : Services σ θ τ) (c : Config) (query : String) (content : Content)
    (json : Option Value) (w : World σ θ τ) :
    Response.explainInParts sv (.ok c) ⟨query, .walk, content, json⟩ w =
      (((stream sv (explainRequest c query content.shown)).failingAs .raised).tracedAs
        (.map String.toUTF8)) w := rfl

/-- **An explanation in parts is what the client sent.** Let a client answer the request for an
explanation with any chunks, in which contents may be empty or missing, and with any ending. Then
what is seen of the explanation is one event at its beginning, the parts, and one event at its end.
The bytes of the parts, one after another, are the encoding of the contents of the chunks, one after
another; and the last event has the number of the parts, also after redaction. If the answer came to
its end, the explanation does so. If it broke off with a failure, the explanation fails with that
failure, and the event says so; being called off has an event of its own. -/
theorem explanation_streamed {client : Client ς} {c : Config} {query : String} {content : Content}
    {w : World σ (ClientState ς) τ} {answer : PartialCompletions} {s : ς}
    (h : client.stream (Client.setValue "stream" (.bool true)
      (explainRequest c query content.shown)) w.transport.client = (answer, s))
    (p : Provider σ) (clock : Clock Float τ) (json : Option Value) :
    ∃ (parts : List ByteArray) (closing : Event),
      (Response.explainInParts ⟨p, client.transport, clock⟩ (.ok c)
          ⟨query, .walk, content, json⟩ w).trace =
        .event ⟨"model.stream.started", [("request", .record
          (explainRequest c query content.shown))]⟩ :: (parts.map .part ++ [.event closing]) ∧
      parts.foldl (· ++ ·) ByteArray.empty =
        (answer.contents.flatMap String.toList).utf8Encode ∧
      closing.attributes.lookup "chunks" = some (.int parts.length) ∧
      (∀ allowContent,
        (.str "chunks", .int parts.length) ∈ (closing.record allowContent).attributes) ∧
      (answer.ending = .ok () → closing.name = "model.stream.completed" ∧
        (Response.explainInParts ⟨p, client.transport, clock⟩ (.ok c)
          ⟨query, .walk, content, json⟩ w).result = .ok ()) ∧
      ∀ e, answer.ending = .error e →
        closing.name =
          (if e = .cancelled then "model.stream.cancelled" else "model.stream.failed") ∧
        (Response.explainInParts ⟨p, client.transport, clock⟩ (.ok c)
          ⟨query, .walk, content, json⟩ w).result = .error (.raised e) := by
  have htransport : client.transport.stream (explainRequest c query content.shown) w.transport =
      (⟨Client.textParts answer.parts, answer.ending⟩, { w.transport with client := s }) := by
    simp only [Client.transport, h]
  have hrun := @stream_run _ _ _ ⟨p, client.transport, clock⟩ _ _ _ _ htransport
  rw [explainInParts_run, Effect.tracedAs, Effect.failingAs, hrun]
  refine ⟨(Client.textParts answer.parts).map String.toUTF8, streamClosed answer.ending
    (clock.reading 0 w.clock) (clock.reading 1 w.clock) (Client.textParts answer.parts).length,
    ?_, ?_, ?_, ?_, ?_, ?_⟩
  · simp [Sight.map]
  · rw [foldl_append_toUTF8, Client.flatMap_toList_textParts, ByteArray.empty_append]
  · rw [List.length_map]
    rfl
  · intro allowContent
    rw [List.length_map]
    exact chunks_mem_record _ _ _ _ allowContent
  · intro hending
    rw [hending]
    exact ⟨rfl, rfl⟩
  · intro e hending
    rw [hending]
    exact ⟨rfl, rfl⟩

/-- An answer that breaks off, with contents that are empty or missing. -/
def brokenAnswer : PartialCompletions :=
  ⟨[[some "Né", none], [], [some ""], [some "€", some "!"]], .error (.rejected "lost")⟩

/-- A world in which that answer is prepared. -/
def breakingOff : World (Option (Registry Value)) (ClientState (Rehearsal PreparedReply))
    (List Float) :=
  ⟨none, { client := { coming := [.parts brokenAnswer] } }, [0.5, 2.5]⟩

/-- An explanation that is to be given in that world. -/
def brokenExplanation : Outcome (World (Option (Registry Value))
    (ClientState (Rehearsal PreparedReply)) (List Float)) ResponseFault (Sight ByteArray) Unit :=
  Response.explainInParts
    ⟨Toolbox.provider { tools := [] }, preparedClient.transport, .prepared 0.0⟩
    (.ok { model := "small" }) ⟨"Who?", .walk, .value (.int 3), none⟩ breakingOff

theorem explanation_streamed_broken :
    ∃ (parts : List ByteArray) (closing : Event),
      brokenExplanation.trace =
        .event ⟨"model.stream.started", [("request", .record
          (explainRequest { model := "small" } "Who?" (.int 3)))]⟩ ::
            (parts.map .part ++ [.event closing]) ∧
      parts.foldl (· ++ ·) ByteArray.empty = "Né€!".toUTF8 ∧
      closing.name = "model.stream.failed" ∧
      (.str "chunks", .int parts.length) ∈ (closing.record false).attributes ∧
      brokenExplanation.result = .error (.raised (.rejected "lost")) := by
  have hclient : preparedClient.stream (Client.setValue "stream" (.bool true)
      (explainRequest { model := "small" } "Who?" (Content.value (.int 3)).shown))
      breakingOff.transport.client = (brokenAnswer, _) := rfl
  obtain ⟨parts, closing, htrace, hbytes, -, hcount, -, hending⟩ :=
    explanation_streamed hclient (Toolbox.provider { tools := [] }) (.prepared 0.0) none
  obtain ⟨hname, hresult⟩ := hending _ rfl
  refine ⟨parts, closing, htrace, ?_, hname, hcount false, hresult⟩
  have htext : brokenAnswer.contents.flatMap String.toList = "Né€!".toList := by decide
  rw [hbytes, htext, String.utf8Encode_toList]
  rfl

end CallTree
