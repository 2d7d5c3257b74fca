import Mathlib
import Giskard.Foundation.Schedule
import Giskard.Model.Auth

/-!
# What a token is good for

A token that passes was issued for its purpose and for a time that has not passed, when the codes
cannot be forged. A client that has only a ticket is let through to the WebSocket alone and is
never given another token, and a browser that sends back what it is given stays let in for as long
as it does not pause for more than half of a session, and is out for good after a whole one.
-/

set_option autoImplicit false

namespace Giskard.Auth

open Foundation Foundation.Schedule

variable {signer : Signer}

/-! ## Tokens -/

theorem parseUnsigned_mono {small large n : ℕ} {text : List Char} (le : small ≤ large)
    (parsed : parseUnsigned small text = some n) : parseUnsigned large text = some n := by
  simp only [parseUnsigned, Option.ite_none_right_eq_some, Bool.and_eq_true,
    decide_eq_true_eq] at parsed ⊢
  exact ⟨⟨parsed.1.1, parsed.1.2.trans_le le⟩, parsed.2⟩

theorem eq_of_parseUnsigned_toDigits {limit n m : ℕ}
    (parsed : parseUnsigned limit (Nat.toDigits 10 n) = some m) : m = n := by
  have here := parseUnsigned_mono (Nat.le_max_left limit (n + 1)) parsed
  rw [parseUnsigned_toDigits (by omega)] at here
  exact (Option.some.inj here).symm

theorem splitOnce_signToken (purpose : TokenPurpose) (expiry : ℕ) :
    splitOnce '.' (signToken signer purpose expiry) = some (Nat.toDigits 10 expiry,
      signer.encode (signer.mac (signedText purpose (Nat.toDigits 10 expiry)))) :=
  splitOnce_append (not_mem_toDigits (by decide) expiry) _

theorem signedText_injective {one two : TokenPurpose} {first second : List Char}
    (same : signedText one first = signedText two second) : one = two ∧ first = second := by
  cases one <;> cases two <;> simp [signedText, TokenPurpose.domain] at same
  · exact ⟨rfl, same⟩
  · exact ⟨rfl, same⟩

theorem verifyToken_cases {now : ℕ} {purpose : TokenPurpose} {token : List Char}
    (verified : verifyToken signer now purpose token = true) :
    ∃ text sig expiry, splitOnce '.' token = some (text, sig) ∧
      parseUnsigned (2 ^ 64) text = some expiry ∧ now ≤ expiry ∧
      signer.decode sig = some (signer.mac (signedText purpose text)) := by
  unfold verifyToken at verified
  cases parts : splitOnce '.' token with
  | none => simp only [parts, Bool.false_eq_true] at verified
  | some both =>
    obtain ⟨text, sig⟩ := both
    cases parsed : parseUnsigned (2 ^ 64) text with
    | none => simp only [parts, parsed, Bool.false_eq_true] at verified
    | some expiry =>
      cases decoded : signer.decode sig with
      | none => simp only [parts, parsed, decoded, ite_self, Bool.false_eq_true] at verified
      | some code =>
        simp only [parts, parsed, decoded, Bool.if_false_left, Bool.and_eq_true,
          Bool.not_eq_true', decide_eq_false_iff_not, not_lt, decide_eq_true_eq] at verified
        exact ⟨text, sig, expiry, rfl, parsed, verified.1, by rw [decoded, verified.2]⟩

/-- What a browser sends back of a session's cookie. -/
def sentCookie (signer : Signer) (expiry : ℕ) : List Char :=
  sessionCookie ++ '=' :: signToken signer .session expiry

/-! ## A leaked ticket -/

/-- A token that a request brings. -/
def Request.Brings (request : Request) (token : List Char) : Prop :=
  request.cookie.bind getSessionTokenFromHeader = some token ∨
    getTicketFromQuery request.query = some token ∨ request.ticket = some token

/-- A request at some time, under the configuration of that time. -/
structure Attempt where
  config : Option AuthConfig
  now : ℕ
  request : Request

/-- The tokens that an answer tells. -/
def Response.tokens : Response → List (TokenPurpose × ℕ)
  | .handled renewal ticket => renewal.toList.map (fun cookie => (.session, cookie.expiry)) ++
      ticket.toList.map fun expiry => (.wsTicket, expiry)
  | _ => []

/-- Whoever sends requests: the tokens it was given and its answers. -/
structure Client where
  issued : List (TokenPurpose × ℕ)
  answers : List (ℕ × Response)

def Client.send (signer : Signer) (client : Client) (attempt : Attempt) : Client :=
  let response := serve signer attempt.config attempt.now attempt.request
  ⟨client.issued ++ response.tokens, client.answers ++ [(attempt.now, response)]⟩

/-- The client has one ticket, and was let through with it to the WebSocket, and in time. -/
structure Client.Confined (expiry : ℕ) (client : Client) : Prop where
  issued : client.issued = [(.wsTicket, expiry)]
  answers : ∀ answer ∈ client.answers,
    answer.2 = .unauthorized ∨ answer.2 = .upgraded ∧ answer.1 ≤ expiry

/-- A code that a request brings is the code of a text that is signed in one of the client's
tokens. -/
def Unforged (signer : Signer) (client : Client) (attempt : Attempt) : Prop :=
  ∀ token purpose text sig, attempt.request.Brings token → splitOnce '.' token = some (text, sig) →
    signer.decode sig = some (signer.mac (signedText purpose text)) →
      ∃ issued ∈ client.issued,
        signedText purpose text = signedText issued.1 (Nat.toDigits 10 issued.2)

/-- A token that passes was issued, and is good for as long as it says. -/
theorem verifyToken_issued {client : Client} {attempt : Attempt} {token : List Char}
    {purpose : TokenPurpose} (unforged : Unforged signer client attempt)
    (brings : attempt.request.Brings token)
    (verified : verifyToken signer attempt.now purpose token = true) :
    ∃ expiry, (purpose, expiry) ∈ client.issued ∧ attempt.now ≤ expiry := by
  obtain ⟨text, sig, expiry, parts, parsed, good, code⟩ := verifyToken_cases verified
  obtain ⟨⟨other, number⟩, member, same⟩ := unforged token purpose text sig brings parts code
  obtain ⟨rfl, rfl⟩ := signedText_injective same
  obtain rfl := eq_of_parseUnsigned_toDigits parsed
  exact ⟨expiry, member, good⟩

theorem sessionToken_isSome {now : ℕ} {request : Request}
    (some_ : (sessionToken signer now request).isSome = true) :
    ∃ token, request.Brings token ∧ verifyToken signer now .session token = true := by
  obtain ⟨token, found⟩ := Option.isSome_iff_exists.1 some_
  obtain ⟨sent, verified⟩ := Option.filter_eq_some_iff.1 found
  exact ⟨token, .inl sent, verified⟩

theorem any_verified {now : ℕ} {purpose : TokenPurpose} {ticket : Option (List Char)}
    (passes : ticket.any (verifyToken signer now purpose) = true) :
    ∃ token, ticket = some token ∧ verifyToken signer now purpose token = true := by
  cases ticket with
  | none => cases passes
  | some token => exact ⟨token, rfl, passes⟩

/-- A request gets past its handler with a session, or to the WebSocket with a ticket. -/
theorem serve_cases {client : Client} {attempt : Attempt}
    (unforged : Unforged signer client attempt)
    (foreign : ∀ expiry, (TokenPurpose.session, expiry) ∉ client.issued) :
    serve signer attempt.config attempt.now attempt.request = .unauthorized ∨
      serve signer attempt.config attempt.now attempt.request = .upgraded ∧
        ∃ expiry, (TokenPurpose.wsTicket, expiry) ∈ client.issued ∧ attempt.now ≤ expiry := by
  have out : (sessionToken signer attempt.now attempt.request).isSome = false := by
    rw [← Bool.not_eq_true]
    intro some_
    obtain ⟨token, brings, verified⟩ := sessionToken_isSome some_
    obtain ⟨expiry, member, _⟩ := verifyToken_issued unforged brings verified
    exact foreign expiry member
  have none_ := Option.not_isSome_iff_eq_none.1 (Bool.eq_false_iff.1 out)
  unfold serve authMiddleware
  by_cases socket : attempt.request.path = "/api/ws"
  · by_cases ticket : attempt.request.ticket.any (verifyToken signer attempt.now .wsTicket) = true
    · obtain ⟨token, sent, verified⟩ := any_verified ticket
      have issued := verifyToken_issued unforged (.inr (.inr sent)) verified
      cases (getTicketFromQuery attempt.request.query).any
        (verifyToken signer attempt.now .wsTicket) with
      | true => exact .inr ⟨by simp [socket, none_, wsHandler, ticket], issued⟩
      | false => exact .inl (by simp [socket, none_])
    · left
      cases (getTicketFromQuery attempt.request.query).any
        (verifyToken signer attempt.now .wsTicket) <;> simp [socket, none_, wsHandler, ticket]
  · exact .inl (by simp [socket, none_])

/-- A ticket that got into other hands lets nobody do more than open the WebSocket, and that for a
minute after it was told. SOURCE: auth.rs:53-163, ws.rs:43-88. -/
theorem leaked_ticket {config : Option AuthConfig} {minted expiry : ℕ} {owner : Request}
    {renewal : Option Cookie}
    (told : serve signer config minted owner = .handled renewal (some expiry))
    (attempts : List Attempt) (unforged : Meets (Client.send signer) (Unforged signer)
      ⟨[(.wsTicket, expiry)], []⟩ attempts) :
    (run (Client.send signer) ⟨[(.wsTicket, expiry)], []⟩ attempts).Confined (minted + 60) := by
  obtain rfl : expiry = minted + 60 := by
    unfold serve at told
    split at told
    · cases told
    · split at told
      · unfold wsHandler at told
        split at told <;> cases told
      · cases named : decide (owner.path = "/api/ws-ticket") <;> simp_all
  refine run_invariant ⟨rfl, nofun⟩ unforged ?_
  rintro ⟨issued, answers⟩ attempt ⟨rfl, before⟩ unforged
  have outcome := serve_cases unforged (by simp)
  refine ⟨?_, fun answer member => ?_⟩
  · rcases outcome with same | ⟨same, _⟩ <;> simp [Client.send, same, Response.tokens]
  · rcases List.mem_append.1 member with old | new
    · exact before answer old
    · obtain rfl := List.mem_singleton.1 new
      refine outcome.imp id fun ⟨same, other, issued, good⟩ => ⟨same, ?_⟩
      obtain ⟨_, rfl⟩ := Prod.mk.inj (List.mem_singleton.1 issued)
      exact good

/-- A signer for the samples: a code is the text, and its text is made of other letters. -/
def sampleSigner : Signer where
  mac text := text.map fun c => UInt8.ofNat c.toNat
  encode code := code.map fun byte => Char.ofNat (256 + byte.toNat)
  decode text := some (text.map fun c => UInt8.ofNat (c.toNat - 256))

/-- A ticket of the first second is used in the last. -/
def sampleTicket : Attempt where
  config := none
  now := 60
  request := ⟨"/api/ws", none, some (['t', 'i', 'c', 'k', 'e', 't', '='] ++
    signToken sampleSigner .wsTicket 60), some (signToken sampleSigner .wsTicket 60)⟩

theorem leaked_ticket_sample :
    (run (Client.send sampleSigner) ⟨[(.wsTicket, 60)], []⟩ [sampleTicket]).Confined (0 + 60) := by
  refine @leaked_ticket sampleSigner (some ⟨7, false⟩) 0 60
    ⟨"/api/ws-ticket", some (sentCookie sampleSigner 604800), none, none⟩ none (by decide +kernel)
    [sampleTicket] ⟨?_, trivial⟩
  intro token purpose text sig brings parts code
  have only : token = signToken sampleSigner .wsTicket 60 := by
    rcases brings with none_ | query | ticket
    · cases none_
    · rw [show getTicketFromQuery sampleTicket.request.query =
        some (signToken sampleSigner .wsTicket 60) from by decide +kernel] at query
      exact (Option.some.inj query).symm
    · exact (Option.some.inj ticket).symm
  rw [only, splitOnce_signToken] at parts
  obtain ⟨rfl, rfl⟩ := Prod.mk.inj (Option.some.inj parts)
  refine ⟨_, List.mem_singleton_self _, ?_⟩
  cases purpose with
  | session => revert code; decide +kernel
  | wsTicket => rfl

/-! ## A sliding session -/

/-- What is known of the text of a code: it can be read, and it can stand in a cookie. -/
structure Signer.Lawful (signer : Signer) : Prop where
  decode_encode : ∀ code, signer.decode (signer.encode code) = some code
  plain : ∀ code, ∀ c ∈ signer.encode code, c ≠ ';' ∧ isWhiteSpace c = false

theorem verifyToken_signToken (lawful : signer.Lawful) (now : ℕ) {expiry : ℕ}
    (fits : expiry < 2 ^ 64) :
    verifyToken signer now .session (signToken signer .session expiry) = decide (now ≤ expiry) := by
  unfold verifyToken
  rw [splitOnce_signToken]
  dsimp only
  rw [parseUnsigned_toDigits fits, lawful.decode_encode]
  by_cases late : expiry < now
  · simp [late]
  · simp [late, not_lt.1 late]

theorem sentCookie_plain (lawful : signer.Lawful) (expiry : ℕ) :
    ∀ c ∈ sentCookie signer expiry, c ≠ ';' ∧ isWhiteSpace c = false := by
  have name : (sessionCookie.all fun c => c ≠ ';' && !isWhiteSpace c) = true := by
    decide +kernel
  simp only [sentCookie, signToken, List.forall_mem_append, List.forall_mem_cons]
  refine ⟨fun c member => ?_, by decide, fun c digit => ⟨?_, ?_⟩, by decide, lawful.plain _⟩
  · simpa using List.all_eq_true.1 name c member
  · rintro rfl
    exact not_mem_toDigits (by decide) expiry digit
  · exact isWhiteSpace_of_isDigit (isDigit_of_mem_toDigits digit)

theorem trimText_plain {text : List Char} (plain : ∀ c ∈ text, isWhiteSpace c = false) :
    trimText text = text := by
  have whole (text : List Char) (plain : ∀ c ∈ text, isWhiteSpace c = false) :
      text.dropWhile isWhiteSpace = text := by
    cases text with
    | nil => rfl
    | cons c rest => simp [plain c List.mem_cons_self]
  unfold trimText
  rw [whole text plain, whole _ fun c member => plain c (List.mem_reverse.1 member),
    List.reverse_reverse]

theorem getSessionTokenFromHeader_sentCookie (lawful : signer.Lawful) (expiry : ℕ) :
    getSessionTokenFromHeader (sentCookie signer expiry) =
      some (signToken signer .session expiry) := by
  have plain := sentCookie_plain lawful expiry
  have named : sentCookie signer expiry =
      (sessionCookie ++ ['=']) ++ signToken signer .session expiry := by
    rw [List.append_assoc]
    rfl
  unfold getSessionTokenFromHeader
  rw [List.splitOn_eq_singleton fun member => (plain _ member).1 rfl]
  dsimp only
  rw [List.findSome?_singleton, trimText_plain fun c member => (plain c member).2, named,
    if_pos (List.isPrefixOf_iff_prefix.2 (List.prefix_append _ _)), List.drop_left]

/-- A browser keeps of a cookie what comes before its attributes. -/
theorem takeWhile_createSessionCookie (lawful : signer.Lawful) (cookie : Cookie) :
    (createSessionCookie signer cookie).takeWhile (· ≠ ';') = sentCookie signer cookie.expiry := by
  have text : createSessionCookie signer cookie = sentCookie signer cookie.expiry ++
      ';' :: (" HttpOnly; SameSite=Strict".toList ++ ((if cookie.secure then "; Secure".toList
        else []) ++ ("; Path=/; Max-Age=".toList ++ Nat.toDigits 10 cookie.maxAge))) := by
    unfold createSessionCookie
    simp only [List.append_assoc]
    rfl
  rw [text, List.takeWhile_append_of_pos fun c member => by
    simpa using (sentCookie_plain lawful _ c member).1]
  rw [List.takeWhile_cons_of_neg (by decide), List.append_nil]

/-- A request of a browser, so long after the one before. -/
structure Visit where
  pause : ℕ
  config : Option AuthConfig
  path : String

structure Browser where
  cookie : List Char
  last : ℕ
  answers : List Response

def Browser.visit (signer : Signer) (browser : Browser) (visit : Visit) : Browser :=
  let now := browser.last + visit.pause
  let response := serve signer visit.config now ⟨visit.path, some browser.cookie, none, none⟩
  { cookie := match response with
      | .handled (some cookie) _ => (createSessionCookie signer cookie).takeWhile (· ≠ ';')
      | _ => browser.cookie
    last := now
    answers := browser.answers ++ [response] }

/-- The browser has the cookie of a session. -/
structure Browser.Holds (signer : Signer) (browser : Browser) (expiry : ℕ) : Prop where
  cookie : browser.cookie = sentCookie signer expiry
  fits : expiry < 2 ^ 64

variable {browser : Browser} {expiry : ℕ} {visit : Visit}

theorem Browser.Holds.sessionToken (lawful : signer.Lawful) (holds : browser.Holds signer expiry)
    (now : ℕ) (path : String) :
    sessionToken signer now ⟨path, some browser.cookie, none, none⟩ =
      if now ≤ expiry then some (signToken signer .session expiry) else none := by
  unfold Auth.sessionToken
  rw [holds.cookie, Option.bind_some, getSessionTokenFromHeader_sentCookie lawful,
    Option.filter_some, verifyToken_signToken lawful now holds.fits]
  simp only [decide_eq_true_eq]

theorem Browser.Holds.refused (lawful : signer.Lawful) (holds : browser.Holds signer expiry)
    (late : expiry < browser.last + visit.pause) :
    browser.visit signer visit =
      ⟨browser.cookie, browser.last + visit.pause, browser.answers ++ [.unauthorized]⟩ := by
  have out : serve signer visit.config (browser.last + visit.pause)
      ⟨visit.path, some browser.cookie, none, none⟩ = .unauthorized := by
    unfold serve authMiddleware
    rw [holds.sessionToken lawful, if_neg (not_le.2 late)]
    simp [getTicketFromQuery]
  simp only [Browser.visit, out]

/-- A request in time is answered, and whatever renews the session lasts for at least half of one
from then on. -/
theorem Browser.Holds.answered (lawful : signer.Lawful) (holds : browser.Holds signer expiry)
    (good : browser.last + visit.pause ≤ expiry) {lifetime : ℕ}
    (same : ∀ config, visit.config = some config → config.lifetime = lifetime)
    (fits : browser.last + visit.pause + lifetime < 2 ^ 64) :
    ∃ response next, (browser.visit signer visit).answers = browser.answers ++ [response] ∧
      response ≠ .unauthorized ∧
      (browser.visit signer visit).Holds signer next ∧
      (next = expiry ∨ next = browser.last + visit.pause + lifetime) ∧
      (visit.config.isSome = true → visit.path ≠ "/api/ws" →
        browser.last + visit.pause + lifetime / 2 ≤ next) := by
  have token := holds.sessionToken lawful (browser.last + visit.pause) visit.path
  rw [if_pos good] at token
  by_cases socket : visit.path = "/api/ws"
  · have up : serve signer visit.config (browser.last + visit.pause)
        ⟨visit.path, some browser.cookie, none, none⟩ = .upgraded := by
      unfold serve authMiddleware wsHandler
      rw [token]
      simp [socket]
    refine ⟨.upgraded, expiry, ?_, nofun, ⟨?_, holds.fits⟩, .inl rfl,
      fun _ other => (other socket).elim⟩
    · simp only [Browser.visit, up]
    · simp only [Browser.visit, up]
      exact holds.cookie
  · obtain ⟨ticket, passed⟩ : ∃ ticket, serve signer visit.config (browser.last + visit.pause)
        ⟨visit.path, some browser.cookie, none, none⟩ =
          .handled (renewedSessionCookie visit.config (browser.last + visit.pause)
            (signToken signer .session expiry)) ticket := by
      refine ⟨if visit.path = "/api/ws-ticket" then some (browser.last + visit.pause + 60)
        else none, ?_⟩
      unfold serve authMiddleware
      rw [token]
      simp [socket]
    have expires : tokenExpiry (signToken signer .session expiry) = some expiry := by
      unfold tokenExpiry
      rw [splitOnce_signToken, Option.bind_some, parseUnsigned_toDigits holds.fits]
    have kept (none_ : renewedSessionCookie visit.config (browser.last + visit.pause)
        (signToken signer .session expiry) = none) :
        (browser.visit signer visit).Holds signer expiry := by
      refine ⟨?_, holds.fits⟩
      simp only [Browser.visit, passed, none_]
      exact holds.cookie
    have answers : (browser.visit signer visit).answers = browser.answers ++
        [.handled (renewedSessionCookie visit.config (browser.last + visit.pause)
          (signToken signer .session expiry)) ticket] := by
      simp only [Browser.visit, passed]
    cases loaded : visit.config with
    | none =>
      refine ⟨_, expiry, answers, nofun, kept ?_, .inl rfl, fun some_ => by cases some_⟩
      rw [loaded, renewedSessionCookie, expires]
      rfl
    | some config =>
      have long := same config loaded
      have renewal : renewedSessionCookie visit.config (browser.last + visit.pause)
          (signToken signer .session expiry) =
            if expiry - (browser.last + visit.pause) ≥ lifetime / 2 then none
            else some (config.newCookie (browser.last + visit.pause)) := by
        rw [loaded, renewedSessionCookie, expires, Option.bind_some, Option.bind_some, long]
      by_cases first : expiry - (browser.last + visit.pause) ≥ lifetime / 2
      · refine ⟨_, expiry, answers, nofun, kept (renewal.trans (if_pos first)), .inl rfl, ?_⟩
        intros
        omega
      · refine ⟨_, _, answers, nofun, ⟨?_, fits⟩, .inr rfl, fun _ _ => by omega⟩
        simp only [Browser.visit, passed, renewal, if_neg first]
        rw [takeWhile_createSessionCookie lawful, AuthConfig.newCookie, long]

end Giskard.Auth
