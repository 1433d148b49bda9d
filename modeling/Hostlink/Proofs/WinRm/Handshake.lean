import Hostlink.Proofs.Bytes.Canonical
import Hostlink.Proofs.WinRm.History
import Hostlink.Proofs.WinRm.SecondMessage

/-!
# What an exchange lets out

A request is carried by the second leg of an exchange only, and there is a second leg only where the
first one, which carries nothing, brought a challenge. `Turn.Challenged` says what a challenge is
without the reader: a reply that asks for a login, whose first offer of a known scheme is the base64
text of a second message. `Handshake` lists the ways in which an exchange can go, with what is handed
to the HTTP client and what it yields in each, and `Exchange.handshake` says that there are no others.

The client follows redirects by itself, so a request that is handed to it once can be sent more often:
once more for each redirect that has it repeated (`Post.bodies_along`), and `requests_sent_twice` is an
endpoint that does so.

Envelopes tell their requests apart, `Request.action_of_envelope`, so what is said of exchanges can be
said of the texts that are sent. A command line is asked for once in each of its courses, and the
courses of a command are those of its plan: apart from redirects nothing here sends a line a second
time, whatever the endpoint does. Connect attempts are repeated, and they carry no line.
-/

namespace Hostlink.WinRm

/-! ## Challenges -/

/-- The values by which a reply asks for a login, as far as they can be read, in order. -/
def HttpReply.loginValues (r : HttpReply) : List (List Char) :=
  (r.headers.filter fun h => h.1.toLower = "www-authenticate" && isReadable h.2).map fun h =>
    headerValue h.2

/-- **An offer**: the first value that starts with a known scheme, and the token behind it. -/
inductive HttpReply.Offers (r : HttpReply) : List Char → Prop
  | intro {before after : List (List Char)} {scheme text : List Char} (known : scheme ∈ schemes)
      (values : r.loginValues = before ++ (scheme ++ text) :: after)
      (first : ∀ value ∈ before, ∀ scheme ∈ schemes, ¬ scheme <+: value) :
      r.Offers (Text.trimChars text)

/-- **A challenge**: the leg is refused for want of a login, and what is offered is the text of a
message that can be read. -/
inductive Turn.Challenged (t : Turn) : Ntlm.Challenge → Prop
  | intro {r : HttpReply} {message : Bytes} {c : Ntlm.Challenge}
      (answered : t.negotiate.ending = .replied r) (refused : r.status = 401)
      (offer : r.Offers (Base64.encode message)) (parsed : Ntlm.Challenge.parse message = .ok c) : t.Challenged c

/-- The token behind the scheme that a value starts with. -/
def tokenOf? (value : List Char) : Option (List Char) :=
  schemes.findSome? fun scheme =>
    if scheme.isPrefixOf value then some (Text.trimChars (value.drop scheme.length)) else none

theorem tokenOf?_eq_none_iff {value : List Char} :
    tokenOf? value = none ↔ ∀ scheme ∈ schemes, ¬ scheme <+: value := by
  simp only [tokenOf?, List.findSome?_eq_none_iff, ite_eq_right_iff, reduceCtorEq, imp_false,
    List.isPrefixOf_iff_prefix]

/-- A value starts with one known scheme at most: they differ in their second letter. -/
theorem tokenOf?_append {scheme : List Char} (known : scheme ∈ schemes) (text : List Char) :
    tokenOf? (scheme ++ text) = some (Text.trimChars text) := by
  simp only [schemes, List.mem_cons, List.not_mem_nil, or_false] at known
  rcases known with rfl | rfl
  · rfl
  · rfl

theorem HttpReply.token?_eq (r : HttpReply) : r.token? = r.loginValues.findSome? tokenOf? := by
  unfold token? loginValues
  induction r.headers with
  | nil => rfl
  | cons h headers ih =>
    by_cases asks : h.1.toLower = "www-authenticate"
    · by_cases readable : isReadable h.2 = true
      · simp only [List.findSome?_cons, List.filter_cons, asks, readable, offeredToken?, if_true,
          decide_true, Bool.and_self, List.map_cons, tokenOf?] at ih ⊢
        rw [ih]
      · simp only [List.findSome?_cons, List.filter_cons, asks, readable, offeredToken?, if_true,
          if_false, decide_true, Bool.true_and, Bool.false_eq_true] at ih ⊢
        exact ih
    · simp only [List.findSome?_cons, List.filter_cons, asks, if_false, decide_false,
        Bool.false_and, Bool.false_eq_true] at ih ⊢
      exact ih

theorem HttpReply.token?_eq_some_iff {r : HttpReply} {token : List Char} :
    r.token? = some token ↔ r.Offers token := by
  rw [r.token?_eq, List.findSome?_eq_some_iff]
  constructor
  · rintro ⟨before, value, after, values, found, none⟩
    obtain ⟨_, scheme, _, split, hit, _⟩ := List.findSome?_eq_some_iff.mp found
    have known : scheme ∈ schemes := by
      rw [split]
      exact List.mem_append_right _ List.mem_cons_self
    split at hit
    next start =>
      obtain ⟨text, rfl⟩ := List.isPrefixOf_iff_prefix.mp start
      rw [List.drop_left] at hit
      cases hit
      exact .intro known values fun v hv => tokenOf?_eq_none_iff.mp (none v hv)
    next => cases hit
  · rintro ⟨known, values, first⟩
    exact ⟨_, _, _, values, tokenOf?_append known _, fun v hv =>
      tokenOf?_eq_none_iff.mpr (first v hv)⟩

/-- A message that is no challenge is a failure of the login. -/
theorem Ntlm.Challenge.fault_of_parse {message : Bytes} {fault : LinkFault}
    (h : parse message = .error fault) : ∃ reason, fault = .authentication reason :=
  ⟨_, (parse_eq_error_iff.mp h).2⟩

/-- **A leg brings the challenge that it is**, and no other. -/
theorem Turn.challenge_eq_ok_iff {t : Turn} {endpoint : String} {c : Ntlm.Challenge} :
    t.challenge endpoint = .ok c ↔ t.Challenged c := by
  constructor
  · intro h
    unfold challenge at h
    split at h
    next => cases h
    next r answered =>
      split at h
      next refused =>
        split at h
        next => cases h
        next token offered =>
          split at h
          next => cases h
          next message decoded =>
            obtain rfl := Base64.decode_eq_ok_iff.mp decoded
            exact .intro answered (beq_iff_eq.mp refused) (HttpReply.token?_eq_some_iff.mp offered) h
      next => cases h
  · rintro ⟨answered, refused, offer, parsed⟩
    have offered := HttpReply.token?_eq_some_iff.mpr offer
    simp only [challenge, answered, isUnauthorized, refused, beq_self_eq_true, if_true, offered,
      Base64.decode_encode, parsed]

/-- A leg that brings no challenge fails, and the failure tells whether there was a reply. -/
theorem Turn.fault_of_challenge {t : Turn} {endpoint : String} {fault : LinkFault}
    (h : t.challenge endpoint = .error fault) :
    (∃ layers root, t.negotiate.ending = .broken layers root ∧ fault = .http endpoint layers root) ∨
      ∃ r reason, t.negotiate.ending = .replied r ∧ fault = .authentication reason := by
  unfold challenge at h
  split at h
  next layers root answered =>
    cases h
    exact .inl ⟨layers, root, answered, rfl⟩
  next r answered =>
    have failed : ∃ reason, fault = .authentication reason := by
      split at h
      next =>
        split at h
        next => cases h; exact ⟨_, rfl⟩
        next =>
          split at h
          next => cases h; exact ⟨_, rfl⟩
          next => exact Ntlm.Challenge.fault_of_parse h
      next => cases h; exact ⟨_, rfl⟩
    obtain ⟨reason, rfl⟩ := failed
    exact .inr ⟨r, reason, answered, rfl⟩

/-! ## One exchange -/

namespace Exchange

/-- The request of the second leg: the text, and the answer to a challenge. -/
def answer (e : Exchange) (i : Ntlm.Identity) (c : Ntlm.Challenge) : Post :=
  e.carrier (i.authenticate c e.turn.clientChallenge e.turn.timestamp)

/-- **How an exchange goes**: what is handed to the client, and what the exchange yields. -/
inductive Handshake (e : Exchange) (i : Ntlm.Identity) : List Post → Attempt Response → Prop
  | unanswered {layers : List String} {root : Option IoFault}
      (first : e.turn.negotiate.ending = .broken layers root) :
      Handshake e i [e.hello i] (.error (.http e.endpoint layers root))
  | unchallenged {r : HttpReply} {reason : String} (first : e.turn.negotiate.ending = .replied r)
      (none : ∀ c, ¬ e.turn.Challenged c) :
      Handshake e i [e.hello i] (.error (.authentication reason))
  | lost {c : Ntlm.Challenge} {layers : List String} {root : Option IoFault}
      (first : e.turn.Challenged c) (second : e.turn.authenticate.ending = .broken layers root) :
      Handshake e i [e.hello i, e.answer i c] (.error (.http e.endpoint layers root))
  | rejected {c : Ntlm.Challenge} {r : HttpReply} (first : e.turn.Challenged c)
      (second : e.turn.authenticate.ending = .replied r) (status : r.status = 401) :
      Handshake e i [e.hello i, e.answer i c]
        (.error (.authentication "NTLM credentials rejected"))
  | answered {c : Ntlm.Challenge} {r : HttpReply} (first : e.turn.Challenged c)
      (second : e.turn.authenticate.ending = .replied r) (status : r.status ≠ 401) :
      Handshake e i [e.hello i, e.answer i c]
        (.ok ⟨r.status, if isBodyless r.status then "" else r.body⟩)

theorem proof?_of_challenged {e : Exchange} {c : Ntlm.Challenge} (h : e.turn.Challenged c)
    (i : Ntlm.Identity) :
    e.proof? i = some (i.authenticate c e.turn.clientChallenge e.turn.timestamp) := by
  simp only [proof?, Turn.challenge_eq_ok_iff.mpr h]

theorem proof?_of_unchallenged {e : Exchange} (h : ∀ c, ¬ e.turn.Challenged c) (i : Ntlm.Identity) :
    e.proof? i = none := by
  cases brought : e.turn.challenge e.endpoint with
  | ok c => exact absurd (Turn.challenge_eq_ok_iff.mp brought) (h c)
  | error fault => simp only [proof?, brought]

theorem requests_of_challenged {e : Exchange} {c : Ntlm.Challenge} (h : e.turn.Challenged c)
    (i : Ntlm.Identity) : e.requests i = [e.hello i, e.answer i c] := by
  rw [requests, proof?_of_challenged h]
  rfl

theorem requests_of_unchallenged {e : Exchange} (h : ∀ c, ¬ e.turn.Challenged c)
    (i : Ntlm.Identity) : e.requests i = [e.hello i] := by
  rw [requests, proof?_of_unchallenged h]
  rfl

/-- **An exchange goes in one of the ways of a handshake.** The cases are what the first leg brings
and, behind a challenge, what the second leg does. -/
theorem handshake (e : Exchange) (i : Ntlm.Identity) :
    e.Handshake i (e.requests i) (e.turn.response e.endpoint) := by
  cases brought : e.turn.challenge e.endpoint with
  | error fault =>
    have none : ∀ c, ¬ e.turn.Challenged c := fun c h => by
      cases (Turn.challenge_eq_ok_iff.mpr h).symm.trans brought
    simp only [requests_of_unchallenged none, Turn.response, brought]
    rcases Turn.fault_of_challenge brought with ⟨layers, root, first, rfl⟩ | ⟨r, reason, first, rfl⟩
    · exact .unanswered first
    · exact .unchallenged first none
  | ok c =>
    have first := Turn.challenge_eq_ok_iff.mp brought
    simp only [requests_of_challenged first, Turn.response, brought]
    cases second : e.turn.authenticate.ending with
    | broken layers root => exact .lost first second
    | replied r =>
      by_cases status : r.status = 401
      · simp only [LegEnd.response, isUnauthorized, status, beq_self_eq_true, if_true]
        exact .rejected first second status
      · simp only [LegEnd.response, isUnauthorized, beq_iff_eq, status, if_false]
        exact .answered first second status

end Exchange

/-- **What is wrong with an exchange that yields nothing**: a leg broke, and the second one only
behind a challenge, or else the login failed. -/
theorem Turn.fault_of_response {t : Turn} {endpoint : String} {fault : LinkFault}
    (h : t.response endpoint = .error fault) :
    (∃ layers root, fault = .http endpoint layers root ∧
      (t.negotiate.ending = .broken layers root ∨
        (∃ c, t.Challenged c) ∧ t.authenticate.ending = .broken layers root)) ∨
      ∃ reason, fault = .authentication reason := by
  -- the request and the identity have no part in what a turn yields
  have went := Exchange.handshake ⟨endpoint, .create, t⟩ ⟨"", "", "", ""⟩
  generalize Exchange.requests _ _ = requests at went
  rw [h] at went
  cases went with
  | unanswered first => exact .inl ⟨_, _, rfl, .inl first⟩
  | unchallenged => exact .inr ⟨_, rfl⟩
  | lost first second => exact .inl ⟨_, _, rfl, .inr ⟨⟨_, first⟩, second⟩⟩
  | rejected => exact .inr ⟨_, rfl⟩

/-! ## Texts tell requests apart -/

/-- No action has a character that stands for markup, so it ends where its element does. -/
theorem Request.action_of_takeWhile (r : Request) (behind : List Char) :
    (r.action.toList ++ '<' :: behind).takeWhile (· != '<') = r.action.toList := by
  have plain : r.action.toList.all (· != '<') = true := by
    cases r with
    | create | command | receive | signal | delete =>
      simp only [action]
      decide +kernel
  rw [List.takeWhile_append_of_pos (List.all_eq_true.mp plain),
    List.takeWhile_cons_of_neg (by decide), List.append_nil]

/-- **An envelope tells its action**: envelopes to one endpoint are alike up to there. -/
theorem Request.action_of_envelope {endpoint id id' : String} {r r' : Request}
    (h : r.envelope endpoint id = r'.envelope endpoint id') : r.action = r'.action := by
  unfold envelope at h
  simp only [String.append_assoc, String.append_right_inj] at h
  have ending : "</a:Action>\n".toList = '<' :: "/a:Action>\n".toList := by decide +kernel
  have texts := congrArg (fun text => text.toList.takeWhile (· != '<')) h
  simp only [String.toList_append, ending, List.cons_append, action_of_takeWhile] at texts
  exact String.toList_inj.mp texts

theorem Request.envelope_ne_empty (endpoint id : String) (r : Request) :
    r.envelope endpoint id ≠ "" := by
  intro h
  have length := congrArg String.length h
  unfold envelope at length
  simp only [String.append_assoc, String.length_append] at length
  simp at length

/-! ## What redirects make of a request -/

theorem Post.body_sentOn (p : Post) (r : Redirect) :
    (p.sentOn r).body = if r.repeats then p.body else "" := by
  unfold sentOn
  cases r.repeats with
  | true => rfl
  | false => rfl

/-- How often a leg has its request repeated, body and all. -/
def Leg.repeats (l : Leg) : Nat := (l.redirects.takeWhile (·.repeats)).length

/-- **The body of a request is sent once, and once more for each redirect that has it repeated.** From
the first redirect on that does not, what is sent is empty. By induction on the redirects. -/
theorem Post.bodies_along (p : Post) (redirects : List Redirect) :
    (p.along redirects).map (·.body) =
      List.replicate (1 + (redirects.takeWhile (·.repeats)).length) p.body ++
        List.replicate (redirects.dropWhile (·.repeats)).length "" := by
  induction redirects generalizing p with
  | nil => rfl
  | cons r rest ih =>
    rw [along, List.map_cons, ih, body_sentOn]
    by_cases again : r.repeats = true
    · rw [if_pos again, List.takeWhile_cons_of_pos again, List.dropWhile_cons_of_pos again,
        List.length_cons, ← List.cons_append, ← List.replicate_succ, Nat.add_assoc]
    · have empty : 1 + (rest.takeWhile (·.repeats)).length + (rest.dropWhile (·.repeats)).length =
          (r :: rest).length := by
        rw [Nat.add_assoc, ← List.length_append, List.takeWhile_append_dropWhile, Nat.add_comm,
          List.length_cons]
      rw [if_neg again, List.replicate_append_replicate, empty, List.takeWhile_cons_of_neg again,
        List.dropWhile_cons_of_neg again]
      rfl

theorem Post.count_along (p : Post) (l : Leg) {text : String} (filled : "" ≠ text) :
    ((p.along l.redirects).map (·.body)).count text = [p.body].count text * (1 + l.repeats) := by
  have none : (List.replicate (l.redirects.dropWhile (·.repeats)).length "").count text = 0 :=
    List.count_eq_zero_of_not_mem fun mem => filled (List.eq_of_mem_replicate mem).symm
  rw [p.bodies_along, List.count_append, none, Nat.add_zero, List.count_replicate, Leg.repeats,
    List.count_singleton]
  by_cases same : (p.body == text) = true
  · rw [if_pos same, if_pos same, Nat.one_mul]
  · rw [if_neg same, if_neg same, Nat.zero_mul]

theorem Post.mem_bodies_along {p : Post} {redirects : List Redirect} {text : String}
    (sent : text ∈ (p.along redirects).map (·.body)) : text = p.body ∨ text = "" := by
  rw [p.bodies_along] at sent
  rcases List.mem_append.mp sent with full | empty
  · exact .inl (List.eq_of_mem_replicate full)
  · exact .inr (List.eq_of_mem_replicate empty)

/-! ## What a log lets out -/

/-- The texts that a log hands to the client, in order. -/
def requested (i : Ntlm.Identity) (log : List Exchange) : List String :=
  (log.flatMap (·.requests i)).map (·.body)

/-- The texts that a log posts, in order. -/
def bodies (i : Ntlm.Identity) (log : List Exchange) : List String :=
  (log.flatMap (·.posts i)).map (·.body)

/-- A text asks an endpoint for a command line. -/
def AsksForLine (endpoint text : String) : Prop :=
  ∃ messageId shell line, text = Request.envelope endpoint messageId (.command shell line)

theorem bodies_cons (i : Ntlm.Identity) (e : Exchange) (rest : List Exchange) :
    bodies i (e :: rest) = (e.posts i).map (·.body) ++ bodies i rest := by
  rw [bodies, List.flatMap_cons, List.map_append, bodies]

theorem requested_cons (i : Ntlm.Identity) (e : Exchange) (rest : List Exchange) :
    requested i (e :: rest) = (e.requests i).map (·.body) ++ requested i rest := by
  rw [requested, List.flatMap_cons, List.map_append, requested]

namespace Exchange

theorem text_ne_empty (e : Exchange) : "" ≠ e.text := (Request.envelope_ne_empty _ _ _).symm

/-- **The text of a request is handed over once in its exchange, exactly if there is a challenge.** -/
theorem count_text (e : Exchange) (i : Ntlm.Identity) :
    ((e.requests i).map (·.body)).count e.text ≤ 1 ∧
      (e.text ∈ (e.requests i).map (·.body) ↔ ∃ c, e.turn.Challenged c) := by
  by_cases challenged : ∃ c, e.turn.Challenged c
  · obtain ⟨c, first⟩ := challenged
    have texts : (e.requests i).map (·.body) = ["", e.text] := by
      rw [requests_of_challenged first]
      rfl
    rw [texts, List.count_cons_of_ne e.text_ne_empty, List.count_singleton_self]
    exact ⟨Nat.le_refl 1, iff_of_true (.tail _ List.mem_cons_self) ⟨c, first⟩⟩
  · have texts : (e.requests i).map (·.body) = [""] := by
      rw [requests_of_unchallenged (not_exists.mp challenged)]
      rfl
    rw [texts, List.count_cons_of_ne e.text_ne_empty, List.count_nil]
    refine ⟨Nat.zero_le 1, iff_of_false ?_ challenged⟩
    rw [List.mem_singleton]
    exact e.text_ne_empty.symm

/-- **Each time that it is handed over, the text of a request is sent once, and once more for each
redirect that has it repeated.** The first leg has no part in it: all that is sent there is empty. -/
theorem count_posts (e : Exchange) (i : Ntlm.Identity) :
    ((e.posts i).map (·.body)).count e.text =
      ((e.requests i).map (·.body)).count e.text * (1 + e.turn.authenticate.repeats) := by
  have hello : [(e.hello i).body].count e.text = 0 := List.count_cons_of_ne e.text_ne_empty
  rw [posts, requests, List.map_append, List.count_append, Post.count_along _ _ e.text_ne_empty,
    hello, Nat.zero_mul, Nat.zero_add, List.map_cons, ← List.singleton_append, List.count_append,
    hello, Nat.zero_add]
  cases e.proof? i with
  | none => exact (Nat.zero_mul _).symm
  | some message =>
    simp only [Option.toList_some, List.map_cons, List.map_nil, List.flatMap_cons, List.flatMap_nil,
      List.append_nil, Post.count_along _ _ e.text_ne_empty]

theorem eq_of_mem_posts {e : Exchange} {i : Ntlm.Identity} {text : String}
    (posted : text ∈ (e.posts i).map (·.body)) : text = "" ∨ text = e.text := by
  rw [posts, List.map_append, List.mem_append, List.map_flatMap] at posted
  rcases posted with first | second
  · exact .inl ((Post.mem_bodies_along first).elim id id)
  · obtain ⟨p, carried, sent⟩ := List.mem_flatMap.mp second
    obtain ⟨message, _, rfl⟩ := List.mem_map.mp carried
    exact (Post.mem_bodies_along sent).symm

/-- What is handed to the client is sent, whatever else is. -/
theorem mem_posts_of_requests {e : Exchange} {i : Ntlm.Identity} {p : Post}
    (handed : p ∈ e.requests i) : p ∈ e.posts i := by
  have sent (p : Post) (redirects : List Redirect) : p ∈ p.along redirects := by
    cases redirects with
    | nil | cons => exact List.mem_cons_self
  rcases List.mem_cons.mp handed with rfl | carried
  · exact List.mem_append_left _ (sent _ _)
  · exact List.mem_append_right _ (List.mem_flatMap.mpr ⟨p, carried, sent _ _⟩)

end Exchange

theorem requested_subset (i : Ntlm.Identity) (log : List Exchange) : requested i log ⊆ bodies i log :=
  List.map_subset _ fun _ mem => by
    obtain ⟨e, logged, handed⟩ := List.mem_flatMap.mp mem
    exact List.mem_flatMap.mpr ⟨e, logged, Exchange.mem_posts_of_requests handed⟩

theorem Request.action_ne_of_line? {r : Request} (none : r.line? = none) (shell line : String) :
    r.action ≠ (command shell line).action := by
  cases r with
  | command => cases none
  | create | receive | signal | delete =>
    simp only [action]
    decide +kernel

/-- Only a request for a command line asks for one. -/
theorem not_asksForLine (e : Exchange) (none : e.request.line? = none) {i : Ntlm.Identity}
    {text : String} (posted : text ∈ (e.posts i).map (·.body)) :
    ¬ AsksForLine e.endpoint text := by
  rintro ⟨messageId, shell, line, rfl⟩
  rcases Exchange.eq_of_mem_posts posted with empty | same
  · exact Request.envelope_ne_empty _ _ _ empty
  · exact Request.action_ne_of_line? none shell line (Request.action_of_envelope same).symm

/-- **The exchanges of a line**: the one that asks for it comes first, and no text that is posted
behind it asks the endpoint for a line, this one or another. -/
theorem LineCourse.exchanges_eq {endpoint : String} (c : LineCourse endpoint) (shell : String) :
    ∃ start rest, c.exchanges shell = ⟨endpoint, .command shell c.line, start⟩ :: rest ∧
      ∀ i, ∀ text ∈ bodies i rest, ¬ AsksForLine endpoint text := by
  cases c with
  | refused line start => exact ⟨start, [], rfl, fun i _ posted => (List.not_mem_nil posted).elim⟩
  | started line start id polls _ stop =>
    refine ⟨start, _, rfl, fun i text posted => ?_⟩
    rw [bodies, List.map_flatMap] at posted
    obtain ⟨e, sent, posted⟩ := List.mem_flatMap.mp posted
    rcases List.mem_append.mp sent with sent | sent
    · obtain ⟨turn, _, rfl⟩ := List.mem_map.mp sent
      exact not_asksForLine ⟨endpoint, .receive shell id, turn⟩ rfl posted
    · obtain rfl := List.mem_singleton.mp sent
      exact not_asksForLine ⟨endpoint, .signal shell id, stop⟩ rfl posted

/-- Where nothing that is sent behind an exchange is its text, what holds of the exchange holds of the
whole log. -/
theorem Exchange.count_text_cons (e : Exchange) {rest : List Exchange} (i : Ntlm.Identity)
    (absent : e.text ∉ bodies i rest) :
    (requested i (e :: rest)).count e.text ≤ 1 ∧
      (bodies i (e :: rest)).count e.text =
        (requested i (e :: rest)).count e.text * (1 + e.turn.authenticate.repeats) := by
  have unhanded : e.text ∉ requested i rest := fun handed => absent (requested_subset i rest handed)
  rw [requested_cons, bodies_cons, List.count_append, List.count_append,
    List.count_eq_zero_of_not_mem absent, List.count_eq_zero_of_not_mem unhanded, Nat.add_zero,
    Nat.add_zero]
  exact ⟨(e.count_text i).1, e.count_posts i⟩

/-! ## Lines that operations ask for -/

/-- The lines of a plan, each as often as carrying it out may ask for it. -/
def Plan.lines : Plan → List String
  | .single line => [line]
  | .staged script => script.lines ++ [script.cleanupLine]

def Operation.lines : Operation → List String
  | .run id command => (Plan.ofCommand id command).lines
  | .connect .. | .move _ | .disconnect => []

theorem StagedCourse.lines_sublist {endpoint : String} {script : StagedScript}
    (c : StagedCourse endpoint script) (shell : String) :
    (commandLines (c.exchanges shell)).Sublist (Plan.staged script).lines := by
  rw [c.commandLines_exchanges]
  refine c.inOrder.firstLines.sublist.append ?_
  cases c.cleanup with
  | none => exact List.nil_sublist _
  | some cleanup => exact List.Sublist.refl _

/-- **A command asks for the lines of its plan**, each as often as the plan has it at most. -/
theorem Session.run_lines (s : Session) (id : String) (command : Command) (w : Wire) :
    ∃ answer sent w', Sends (s.run id command) w answer sent w' ∧
      (commandLines sent).Sublist (Plan.ofCommand id command).lines := by
  cases plan : Plan.ofCommand id command with
  | single line =>
    obtain ⟨c, w', rfl, h⟩ := s.run_single plan w
    refine ⟨_, _, w', h, ?_⟩
    rw [c.commandLines_exchanges]
    exact List.Sublist.refl _
  | staged script =>
    obtain ⟨c, w', h⟩ := s.run_staged plan w
    exact ⟨_, _, w', h, c.lines_sublist s.shell⟩

theorem commandLines_creates (endpoint : String) (creates : List Turn) :
    commandLines (creates.map (⟨endpoint, .create, ·⟩)) = [] :=
  List.filterMap_eq_nil_iff.mpr fun e created => by
    obtain ⟨turn, _, rfl⟩ := List.mem_map.mp created
    rfl

namespace Connection

/-- Connecting asks for no line, however often it is tried. -/
theorem connect_lines (c : Connection) (station : Station) (t : Target) (w : Wire) :
    ∃ answer sent w', Sends (c.connect station t) w answer sent w' ∧ commandLines sent = [] := by
  unfold connect
  cases c.phase.hasSession with
  | true => exact ⟨_, [], w, .pure _ w, rfl⟩
  | false =>
    simp only [Bool.false_eq_true, if_false]
    cases Login.ofTarget t with
    | error fault => exact ⟨_, [], w, .pure _ w, rfl⟩
    | ok login =>
      rcases Session.open_course station t login w with
        ⟨fault, h⟩ | ⟨creates, fault, w', _, h⟩ | ⟨creates, shell, identity, w', _, h⟩
      · exact ⟨_, [], w, h.bind_pure rfl, rfl⟩
      · exact ⟨_, _, w', h.bind_pure rfl, commandLines_creates _ _⟩
      · exact ⟨_, _, w', h.bind_pure rfl, commandLines_creates _ _⟩

theorem run_lines (c : Connection) (id : String) (command : Command) (w : Wire) :
    ∃ answer sent w', Sends (c.run id command) w answer sent w' ∧
      (commandLines sent).Sublist (Plan.ofCommand id command).lines := by
  rcases c.run_refused_or_session id command w with ⟨fault, refused⟩ | ⟨session, same⟩
  · exact ⟨.error fault, [], w, ⟨refused, (List.append_nil _).symm⟩, List.nil_sublist _⟩
  · obtain ⟨answer, sent, w', h, lines⟩ := session.run_lines id command w
    exact ⟨answer, sent, w', ⟨same.trans h.run, h.exchanges⟩, lines⟩

theorem disconnect_lines (c : Connection) (w : Wire) :
    ∃ answer sent w', Sends c.disconnect w answer sent w' ∧ commandLines sent = [] := by
  unfold disconnect
  cases c.phase.hasSession with
  | false => exact ⟨_, [], w, .pure _ w, rfl⟩
  | true =>
    cases c.session with
    | none => exact ⟨_, [], w, .pure _ w, rfl⟩
    | some session =>
      obtain ⟨turn, answer, w', closed⟩ := session.sends_close w
      exact ⟨_, _, w', closed.bind_pure rfl, rfl⟩

theorem perform_lines (c : Connection) (op : Operation) (w : Wire) :
    ∃ c' sent w', Sends (c.perform op) w c' sent w' ∧ (commandLines sent).Sublist op.lines := by
  cases op with
  | connect station target =>
    obtain ⟨answer, sent, w', h, none⟩ := c.connect_lines station target w
    exact ⟨_, sent, w', h.bind_pure rfl, none ▸ List.nil_sublist _⟩
  | run id command =>
    obtain ⟨answer, sent, w', h, lines⟩ := c.run_lines id command w
    exact ⟨c, sent, w', h.bind_pure rfl, lines⟩
  | move m => exact ⟨_, [], w, .pure _ w, List.nil_sublist _⟩
  | disconnect =>
    obtain ⟨answer, sent, w', h, none⟩ := c.disconnect_lines w
    exact ⟨_, sent, w', h.bind_pure rfl, none ▸ List.nil_sublist _⟩

/-- **No line is asked for on top of what the commands plan.** By induction on the operations. -/
theorem performAll_lines (c : Connection) (ops : List Operation) (w : Wire) :
    ∃ c' sent w', Sends (c.performAll ops) w c' sent w' ∧
      (commandLines sent).Sublist (ops.flatMap (·.lines)) := by
  induction ops generalizing c w with
  | nil => exact ⟨c, [], w, .pure c w, List.Sublist.refl _⟩
  | cons op ops ih =>
    obtain ⟨c₁, sent, w₁, first, lines⟩ := c.perform_lines op w
    obtain ⟨c₂, sent', w₂, rest, lines'⟩ := ih c₁ w₁
    refine ⟨c₂, sent ++ sent', w₂, first.bind rest, ?_⟩
    rw [commandLines, List.filterMap_append, List.flatMap_cons]
    exact lines.append lines'

end Connection

/-- **A request is handed over once, and only in answer to a challenge.**

Of one exchange, whatever the endpoint does on either leg: it goes in one of the ways of a handshake,
and its text is handed to the client once at most, exactly if the first leg brought a challenge; it is
sent once then, and once more for each redirect that has it repeated, and what is sent besides is
empty. Of one line, on any session: its exchange comes first, its text is handed over once at most and
sent as often as that says, and nothing that is sent behind asks the endpoint for a line. Of a
connection, whatever is done with it: the lines asked for are among those that the commands plan, in
their order, so none is asked for again. -/
theorem requests_let_out_once :
    (∀ (e : Exchange) (i : Ntlm.Identity),
      e.Handshake i (e.requests i) (e.turn.response e.endpoint) ∧
      ((e.requests i).map (·.body)).count e.text ≤ 1 ∧
      (e.text ∈ (e.requests i).map (·.body) ↔ ∃ c, e.turn.Challenged c) ∧
      ((e.posts i).map (·.body)).count e.text =
        ((e.requests i).map (·.body)).count e.text * (1 + e.turn.authenticate.repeats) ∧
      ∀ text ∈ (e.posts i).map (·.body), text = "" ∨ text = e.text) ∧
    (∀ (s : Session) (line : String) (w : Wire), ∃ start rest answer w',
      let e : Exchange := ⟨s.endpoint, .command s.shell line, start⟩
      Sends (s.execute line) w answer (e :: rest) w' ∧
      ∀ i, (requested i (e :: rest)).count e.text ≤ 1 ∧
        (bodies i (e :: rest)).count e.text =
          (requested i (e :: rest)).count e.text * (1 + e.turn.authenticate.repeats) ∧
        ∀ text ∈ bodies i rest, ¬ AsksForLine s.endpoint text) ∧
    ∀ (c : Connection) (ops : List Operation) (w : Wire), ∃ c' sent w',
      Sends (c.performAll ops) w c' sent w' ∧
      (commandLines sent).Sublist (ops.flatMap (·.lines)) := by
  refine ⟨fun e i => ⟨e.handshake i, (e.count_text i).1, (e.count_text i).2, e.count_posts i,
    fun _ => Exchange.eq_of_mem_posts⟩, fun s line w => ?_, Connection.performAll_lines⟩
  obtain ⟨c, w', rfl, h⟩ := s.execute_course line w
  obtain ⟨start, rest, exchanges, silent⟩ := c.exchanges_eq s.shell
  refine ⟨start, rest, c.outcome, w', exchanges ▸ h, fun i => ?_⟩
  have counts := Exchange.count_text_cons ⟨s.endpoint, .command s.shell c.line, start⟩ i fun posted =>
    silent i _ posted ⟨start.messageId, s.shell, c.line, rfl⟩
  exact ⟨counts.1, counts.2, silent i⟩

/-- The turn of an endpoint that sends the client on as soon as it is asked. -/
def Turn.sendingOn (place : String) : Turn :=
  ⟨"", Bytes.zeros 8, 0, .replied ⟨307, [("Location", place)], ""⟩, .replied challengeReply⟩

/-- The turn of an endpoint that takes the login, has the request repeated and then answers. -/
def Turn.repeating (place body : String) : Turn where
  messageId := ""
  clientChallenge := Bytes.zeros 8
  timestamp := 0
  negotiate := .replied challengeReply
  authenticate :=
    { ending := .replied ⟨200, [], body⟩
      redirects := [{ status := 307, url := place, elsewhere := false }] }

/-- An endpoint that carries out a line, and sends the client on to itself in both legs before. -/
def Wire.sendingOn (endpoint : String) : Wire :=
  let start := [.sendingOn endpoint, .repeating endpoint "<rsp:CommandId>C1</rsp:CommandId>"]
  let turns := start ++ (Turn.carryingOut "C1").tail
  ⟨follow (fun place => some (place, false)) .silent turns, .silent, []⟩

/-- **A line that is sent twice**: what answers the first request is no challenge but a redirect, and
still the line is carried out, and its envelope is sent a second time. -/
theorem requests_sent_twice :
    let ran := Session.sample.execute "hostname" (.sendingOn Session.sample.endpoint)
    ran.1.toOption = some ⟨"", "", 0⟩ ∧
      ∃ e ∈ ran.2.exchanges, e.request = .command "S1" "hostname" ∧
        e.turn.negotiate.redirects.map (·.status) = [307] ∧
        (e.posts Session.sample.identity).map (·.body) = ["", "", e.text, e.text] := by
  decide +kernel

end Hostlink.WinRm
