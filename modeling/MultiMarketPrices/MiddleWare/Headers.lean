import MultiMarketPrices.MiddleWare.Interface

/-!
# Numbers in headers

A request and its responses name the request by a decimal number in a header.
What the handlers read there is what `stoull` reads: a text that only begins
with a number, after blanks and a sign, is taken for that number.
-/

namespace MultiMarketPrices.MiddleWare

/-- Both handlers take the text for the number, and go on with it. -/
structure Accepts (text : String) (reqId : UInt64) : Prop where
  hrequest : ∀ message pendingRequestBook,
    message.msgType = MessageType.request →
    message.headers.lookup HeaderKey.reqId = some text →
    handleRequest message pendingRequestBook =
      (true, admitRequest text reqId message pendingRequestBook)
  hresponse : ∀ pongCallback message isLast,
    message.msgType = MessageType.response ∨
      message.msgType = MessageType.lastResponse →
    message.headers.lookup HeaderKey.respId = some text →
    (message.headers.lookup HeaderKey.isLast).getD "0" =
      (if isLast then "1" else "0") →
    handleResponse pongCallback message =
      (true,
        if message.headers.lookup HeaderKey.respType = some pong then
          if pongCallback then [.pongCallback reqId] else []
        else [.responseCallback reqId message.payload isLast])

/-- Both handlers report the text, once, and do nothing else. -/
structure Refuses (text : String) : Prop where
  hrequest : ∀ message pendingRequestBook,
    message.msgType = MessageType.request →
    message.headers.lookup HeaderKey.reqId = some text →
    ∃ error, handleRequest message pendingRequestBook =
      (true, pendingRequestBook, [.errCallback error])
  hresponse : ∀ pongCallback message,
    message.msgType = MessageType.response ∨
      message.msgType = MessageType.lastResponse →
    message.headers.lookup HeaderKey.respId = some text →
    ∃ error, handleResponse pongCallback message =
      (true, [.errCallback error])

/-- The text is accepted if it is what `to_string` writes for a number, for that
number, and refused if it is not. -/
def Strict (text : String) : Prop :=
  (∀ reqId, text = Text.ofUInt64 reqId → Accepts text reqId) ∧
    ((∀ reqId, text ≠ Text.ofUInt64 reqId) → Refuses text)

variable {text : String} {reqId : UInt64}

theorem accepts_of_stoull (hread : Text.stoull text = .ok reqId) :
    Accepts text reqId where
  hrequest message pendingRequestBook hmsgType hlookup := by
    simp only [handleRequest, hmsgType, ne_eq, not_true_eq_false, if_false,
      hlookup, hread]
  hresponse pongCallback message isLast hmsgType hlookup hisLast := by
    have hknown : ¬ (message.msgType ≠ MessageType.response ∧
        message.msgType ≠ MessageType.lastResponse) := by tauto
    rw [handleResponse, if_neg hknown, hlookup]
    cases isLast <;> simp [hisLast, deliverResponse, hread]

theorem refuses_of_stoull {what : String}
    (hread : Text.stoull text = .error what) : Refuses text where
  hrequest message pendingRequestBook hmsgType hlookup := by
    simp only [handleRequest, hmsgType, ne_eq, not_true_eq_false, if_false,
      hlookup, hread]
    exact ⟨_, rfl⟩
  hresponse pongCallback message hmsgType hlookup := by
    have hknown : ¬ (message.msgType ≠ MessageType.response ∧
        message.msgType ≠ MessageType.lastResponse) := by tauto
    simp only [handleResponse, if_neg hknown, hlookup]
    split
    · exact ⟨_, rfl⟩
    · simp only [deliverResponse, hread]
      exact ⟨_, rfl⟩

/-- A request to answer to `client` with the text for its number. -/
def numbered (text : String) : Message where
  topic := "gateway"
  partition := 0
  offset := 0
  msgType := MessageType.request
  key := "client"
  headers := (Finmap.insert HeaderKey.destTopic "client" ∅).insert
    HeaderKey.reqId text
  payload := ""

theorem handleRequest_numbered (haccepts : Accepts text reqId) :
    handleRequest (numbered text) ∅ =
      (true, Finmap.insert reqId "client" ∅,
        [.requestHandlerFunc reqId ""]) := by
  rw [haccepts.hrequest _ _ rfl (by simp [numbered])]
  simp [admitRequest, numbered, Finmap.notMem_empty]

theorem Accepts.not_refuses (haccepts : Accepts text reqId) :
    ¬ Refuses text := by
  intro hrefuses
  obtain ⟨error, hrefused⟩ :=
    hrefuses.hrequest (numbered text) ∅ rfl (by simp [numbered])
  rw [handleRequest_numbered haccepts] at hrefused
  simp at hrefused

/-- A text is accepted for one number at most. -/
theorem Accepts.number_inj {other : UInt64} (haccepts : Accepts text reqId)
    (hother : Accepts text other) : reqId = other := by
  have hsame := (handleRequest_numbered haccepts).symm.trans
    (handleRequest_numbered hother)
  simp only [Prod.mk.injEq, List.cons.injEq,
    Effect.requestHandlerFunc.injEq] at hsame
  exact hsame.2.2.1.1

theorem Strict.eq_ofUInt64 (hstrict : Strict text)
    (haccepts : Accepts text reqId) : text = Text.ofUInt64 reqId := by
  by_contra hne
  by_cases hdecimal : ∃ other, text = Text.ofUInt64 other
  · obtain ⟨other, hother⟩ := hdecimal
    have hsame := haccepts.number_inj (hstrict.1 other hother)
    exact hne (hsame ▸ hother)
  · push Not at hdecimal
    exact haccepts.not_refuses (hstrict.2 hdecimal)

/-- The handlers are strict about a text exactly when it is the decimal text of
a number or contains no number that `stoull` could read; and two texts that they
are strict about never denote the same request. -/
theorem strict_iff (text : String) :
    (Strict text ↔
      (∃ reqId, text = Text.ofUInt64 reqId) ∨ Text.NoNumber text) ∧
    ∀ other reqId, Strict text → Strict other → Accepts text reqId →
      Accepts other reqId → text = other := by
  refine ⟨⟨?_, ?_⟩, ?_⟩
  · intro hstrict
    by_cases hnumber : Text.NoNumber text
    · exact .inr hnumber
    · obtain ⟨reqId, hread⟩ := (Text.stoull_eq_ok text).mpr hnumber
      exact .inl ⟨reqId, hstrict.eq_ofUInt64 (accepts_of_stoull hread)⟩
  · rintro (⟨reqId, rfl⟩ | hnumber)
    · refine ⟨?_, fun hnone => absurd rfl (hnone reqId)⟩
      intro other hother
      exact accepts_of_stoull (hother ▸ Text.stoull_ofUInt64 other)
    · have hthrows : ∃ what, Text.stoull text = .error what := by
        cases hread : Text.stoull text with
        | error what => exact ⟨what, rfl⟩
        | ok reqId =>
            exact absurd hnumber ((Text.stoull_eq_ok text).mp ⟨reqId, hread⟩)
      obtain ⟨what, hread⟩ := hthrows
      refine ⟨?_, fun _ => refuses_of_stoull hread⟩
      rintro reqId rfl
      rw [Text.stoull_ofUInt64] at hread
      cases hread
  · intro other reqId hstrict hother haccepts haccepted
    rw [hstrict.eq_ofUInt64 haccepts, hother.eq_ofUInt64 haccepted]

/-- A blank and a letter about the number 7 change nothing. -/
theorem loose_number_accepted :
    (∀ reqId, " 7x" ≠ Text.ofUInt64 reqId) ∧ Accepts " 7x" 7 ∧
      Accepts "7" 7 ∧ ¬ Strict " 7x" := by
  have haccepts : Accepts " 7x" 7 := accepts_of_stoull rfl
  have hother : ∀ reqId, " 7x" ≠ Text.ofUInt64 reqId := by
    intro reqId heq
    have hdigit : ' '.isDigit = true :=
      @Text.isDigit_of_mem_ofUInt64 reqId ' ' (heq ▸ by decide)
    exact absurd hdigit (by decide)
  refine ⟨hother, haccepts, accepts_of_stoull rfl, ?_⟩
  intro hstrict
  exact hother 7 (hstrict.eq_ofUInt64 haccepts)

end MultiMarketPrices.MiddleWare
