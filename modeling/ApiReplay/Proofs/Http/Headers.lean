import ApiReplay.Proofs.Http.Parameters
import Mathlib.Data.List.Nodup

/-!
# Headers that a request declares

A request that is sent has the headers that it declares, those that tell who the client is, one that
tells what the body is, and those that every request has. The last ones are added where their names
are free, and so is the type of a body that is neither a list nor a text. All others are added
whatever is there. So a name stands twice, and a declared header is not the only one of its name,
just when the client is identified twice, or when a list or a text is sent and the request declares
the type of the body.

## Main definitions

* `Http.identities`: the headers that tell who the client is, besides declared ones.
* `Http.contentNames`: the header that comes with a body whatever is declared.
* `Http.ToldOnce`: no header is told from two sides.

## Main results

* `Http.nodup_names_draft_iff`: when each name stands once in a request that is to be sent.
* `Http.nodup_names_follow`: names that stand once do so on all the ways a request is sent.
* `Http.declared_headers_sent_iff`: when declared headers are the ones that are sent.
-/

namespace ApiReplay.Http

variable {headers : List Header} {name value : String}

/-- The names of headers. -/
def names (headers : List Header) : List String :=
  headers.map Prod.fst

/-! ### Headers that are added -/

theorem headerValue?_eq_none_iff : headerValue? name headers = none ↔ name ∉ names headers := by
  rw [headerValue?, List.lookup_eq_none_iff, names, List.mem_map]
  constructor
  · rintro h ⟨header, hmem, rfl⟩
    simpa using h header hmem
  · intro h header hmem
    simpa using fun heq : name = header.1 => h ⟨header, hmem, heq.symm⟩

/-- Where names stand once, a header is found under its name. -/
theorem headerValue?_eq_some_of_mem (hnodup : (names headers).Nodup)
    (h : (name, value) ∈ headers) : headerValue? name headers = some value := by
  induction headers with
  | nil => cases h
  | cons first rest ih =>
    obtain ⟨hfirst, hrest⟩ := List.nodup_cons.mp hnodup
    rcases List.mem_cons.mp h with rfl | hmem
    · simp [headerValue?]
    · have hne : (name == first.1) = false := by
        refine beq_eq_false_iff_ne.mpr fun heq => hfirst ?_
        exact heq ▸ List.mem_map_of_mem hmem
      rw [headerValue?, List.lookup_cons, hne]
      exact ih hrest hmem

/-- A default never brings a name in twice. -/
theorem nodup_names_addDefault :
    (names (Draft.addDefault name value headers)).Nodup ↔ (names headers).Nodup := by
  unfold Draft.addDefault
  split
  · exact Iff.rfl
  · rename_i hnone
    rw [Bool.not_eq_true, Option.isSome_eq_false_iff, Option.isNone_iff_eq_none,
      headerValue?_eq_none_iff] at hnone
    have hnames : names (headers ++ [(name, value)]) = (names headers).concat name := by
      rw [names, List.map_append, List.concat_eq_append]
      rfl
    rw [hnames, List.nodup_concat]
    exact and_iff_right hnone

theorem mem_addDefault {header : Header} (h : header ∈ headers) :
    header ∈ Draft.addDefault name value headers := by
  unfold Draft.addDefault
  split
  · exact h
  · exact List.mem_append_left _ h

/-! ### Headers of a draft -/

/-- The headers that tell who the client is: by a user whom the address names, and by the key or the
user of the service. -/
def identities (service : Config.Service) (user : Option (List Char × Option (List Char))) :
    List Header :=
  userHeader user ++ identity service

/-- The name of the header that comes with a body whatever is declared: that of its type, for lists
and texts. -/
def contentNames : Option Json → List String
  | some (.array _) | some (.string _) => ["content-type"]
  | _ => []

/-- No header is told from two sides. The client is identified at most once, be it by the address,
the service or the request; and where a list or a text is sent, the request says nothing about the
type of the body. -/
structure ToldOnce (service : Config.Service) (user : Option (List Char × Option (List Char)))
    (headers : List Header) (body : Option Json) : Prop where
  identity : (identities service user).length
    + (headers.map fun h => lower h.1).count "authorization" ≤ 1
  content : ∀ name ∈ contentNames body, name ∉ headers.map fun h => lower h.1

theorem fst_of_mem_identities {service : Config.Service}
    {user : Option (List Char × Option (List Char))} {header : Header}
    (h : header ∈ identities service user) : header.1 = "authorization" := by
  rcases List.mem_append.mp h with huser | hservice
  · unfold userHeader at huser
    split at huser
    · cases huser
    · rw [List.mem_singleton.mp huser]
      rfl
  · unfold identity at hservice
    split at hservice
    · rw [List.mem_singleton.mp hservice]
    · rw [List.mem_singleton.mp hservice]
      rfl
    · cases hservice

/-- The body brings in its own name, or a default. -/
theorem nodup_names_carry {named : List Header} {body : Option Json} :
    (names (carry named body).1).Nodup ↔ (names named ++ contentNames body).Nodup := by
  unfold carry contentNames
  split
  · rw [List.append_nil]
  · simp only [names, List.map_append, List.map_cons, List.map_nil]
  · simp only [names, List.map_append, List.map_cons, List.map_nil]
  · rename_i tree hlist htext
    rw [nodup_names_addDefault]
    split
    · rename_i items heq
      exact absurd (Option.some.inj heq) (hlist items)
    · rename_i raw heq
      exact absurd (Option.some.inj heq) (htext raw)
    · rw [List.append_nil]

theorem mem_carry {named : List Header} {header : Header} (body : Option Json)
    (h : header ∈ named) : header ∈ (carry named body).1 := by
  unfold carry
  split
  · exact h
  · exact List.mem_append_left _ h
  · exact List.mem_append_left _ h
  · exact mem_addDefault h

/-- One name that stands so many times in front of distinct others. -/
theorem nodup_replicate_append_iff {count : Nat} {name : String} {first more : List String}
    (hfirst : first.Nodup) (hmore : more.Nodup) (hname : name ∉ more) :
    (List.replicate count name ++ first ++ more).Nodup ↔
      count + first.count name ≤ 1 ∧ ∀ other ∈ more, other ∉ first := by
  have hself : more.count name = 0 := List.count_eq_zero.mpr hname
  rw [List.nodup_iff_count_le_one]
  simp only [List.count_append, List.count_replicate]
  constructor
  · intro h
    refine ⟨by simpa [hself] using h name, fun other hother hmem => ?_⟩
    have hle := h other
    have := List.count_pos_iff.mpr hother
    have := List.count_pos_iff.mpr hmem
    omega
  · rintro ⟨hle, hdisjoint⟩ other
    have hone := List.nodup_iff_count_le_one.mp hfirst other
    by_cases heq : name = other
    · subst heq
      simp only [beq_self_eq_true, if_true, hself]
      omega
    · have hbeq : (name == other) = false := beq_eq_false_iff_ne.mpr heq
      rw [hbeq, if_neg Bool.false_ne_true]
      by_cases hmem : other ∈ more
      · have := List.count_eq_zero.mpr (hdisjoint other hmem)
        have := List.nodup_iff_count_le_one.mp hmore other
        omega
      · have := List.count_eq_zero.mpr hmem
        omega

section

variable {service : Config.Service} {plan : Plan} {draft : Draft}

/-- What a request that can be sent has for headers. -/
theorem exists_of_draft (h : Http.draft service headers plan = .ok draft) :
    ∃ url, Url.parse? (withoutSlashes service.url ++ plan.path).toList = some url ∧
      draft.headers = withDefaults (carry ((identities service url.takeUser.2 ++ headers).map
        fun h => (lower h.1, h.2)) plan.body).1 := by
  obtain ⟨url, hurl, rfl⟩ := exists_draft_eq h
  exact ⟨url, hurl, rfl⟩

/-- The names of the headers that are not added by default. -/
theorem names_given (service : Config.Service) (user : Option (List Char × Option (List Char)))
    (headers : List Header) :
    names ((identities service user ++ headers).map fun h => (lower h.1, h.2))
      = List.replicate (identities service user).length "authorization"
        ++ headers.map fun h => lower h.1 := by
  have hidentities : (identities service user).map (fun h => lower h.1)
      = List.replicate (identities service user).length "authorization" := by
    refine List.eq_replicate_iff.mpr ⟨List.length_map _, fun name hname => ?_⟩
    obtain ⟨header, hheader, rfl⟩ := List.mem_map.mp hname
    rw [fst_of_mem_identities hheader]
    decide
  rw [names, List.map_map, List.map_append, ← hidentities]
  rfl

/-- Each name stands once in a request that is to be sent just when no header is told from two
sides. -/
theorem nodup_names_draft_iff (hdistinct : (headers.map fun h => lower h.1).Nodup)
    (h : Http.draft service headers plan = .ok draft) {url : Url}
    (hurl : Url.parse? (withoutSlashes service.url ++ plan.path).toList = some url) :
    (names draft.headers).Nodup ↔ ToldOnce service url.takeUser.2 headers plan.body := by
  obtain ⟨url', hurl', heq⟩ := exists_of_draft h
  obtain rfl := Option.some.inj (hurl.symm.trans hurl')
  have hcontent : (contentNames plan.body).Nodup ∧ "authorization" ∉ contentNames plan.body := by
    unfold contentNames
    split <;> decide
  rw [heq, withDefaults, nodup_names_addDefault, nodup_names_addDefault, nodup_names_carry,
    names_given, nodup_replicate_append_iff hdistinct hcontent.1 hcontent.2]
  exact ⟨fun ⟨hidentity, hbody⟩ => ⟨hidentity, hbody⟩, fun htold => ⟨htold.identity, htold.content⟩⟩

/-- Every declared header is among those of the request. -/
theorem mem_headers_of_draft (h : Http.draft service headers plan = .ok draft) {header : Header}
    (hmem : header ∈ headers) : (lower header.1, header.2) ∈ draft.headers := by
  obtain ⟨url, -, heq⟩ := exists_of_draft h
  rw [heq]
  refine mem_addDefault (mem_addDefault (mem_carry _ ?_))
  exact List.mem_map.mpr ⟨header, List.mem_append_right _ hmem, rfl⟩

end

/-! ### Headers of what is sent -/

theorem names_wire (draft : Draft) : names draft.wire.headers = names draft.headers := by
  rw [names, names, Draft.wire, List.map_map]
  rfl

theorem nodup_names_filter (keep : Header → Bool) (h : (names headers).Nodup) :
    (names (headers.filter keep)).Nodup :=
  h.sublist (List.filter_sublist.map Prod.fst)

/-- A header that is set takes the place of all others of its name. -/
theorem nodup_names_setHeader (h : (names headers).Nodup) :
    (names (Draft.setHeader name value headers)).Nodup := by
  have hnames : names (Draft.setHeader name value headers)
      = (names (headers.filter (·.1 ≠ name))).concat name := by
    rw [Draft.setHeader, names, List.map_append, List.concat_eq_append]
    rfl
  rw [hnames, List.nodup_concat]
  refine ⟨fun hmem => ?_, nodup_names_filter _ h⟩
  obtain ⟨header, hheader, rfl⟩ := List.mem_map.mp hmem
  simp at hheader

/-- A redirection keeps a request or drops its body, and moves it to another address. -/
theorem exists_moved_of_redirected {draft next : Draft} {reply : Reply}
    (h : draft.redirected? reply = some next) : ∃ kept url,
      (kept = draft ∨ ∃ method, kept = draft.withoutBody method) ∧ next = kept.moved url := by
  simp only [Draft.redirected?, Option.bind_eq_bind, Option.bind_eq_some_iff, Option.some.injEq]
    at h
  obtain ⟨kept, hkept, -, -, url, -, rfl⟩ := h
  refine ⟨kept, url, ?_, rfl⟩
  unfold Draft.elsewhere? at hkept
  split at hkept
  all_goals cases hkept
  · split
    · exact .inr ⟨_, rfl⟩
    · exact .inl rfl
  · split
    · exact .inr ⟨_, rfl⟩
    · exact .inl rfl
  · exact .inr ⟨_, rfl⟩
  · exact .inl rfl
  · exact .inl rfl

/-- A redirection brings no name in twice. -/
theorem nodup_names_redirected {draft next : Draft} {reply : Reply}
    (h : (names draft.headers).Nodup) (hnext : draft.redirected? reply = some next) :
    (names next.headers).Nodup := by
  obtain ⟨kept, url, hkept, rfl⟩ := exists_moved_of_redirected hnext
  have hsublist : kept.headers.Sublist draft.headers := by
    rcases hkept with rfl | ⟨method, rfl⟩
    · exact .refl _
    · exact List.filter_sublist
  exact nodup_names_setHeader (h.sublist (hsublist.map Prod.fst))

section

variable {network : Network} {service : Config.Service} {server : Server} {patience left : Nat}
  {first : Url} {draft : Draft} {sent : Request}

/-- What is sent is the request itself, or sent behind a redirection of it. -/
theorem mem_sent_follow (hsent : sent ∈ (follow network patience first left draft server).sent) :
    sent = draft.wire ∨ ∃ reply next more server', draft.redirected? reply = some next ∧
      left = more + 1 ∧ sent ∈ (follow network patience first more next server').sent := by
  unfold follow at hsent
  split_ifs at hsent
  · cases hsent
  · cases hsent
  · cases hsent
  · split at hsent
    · exact .inl (List.mem_singleton.mp hsent)
    · exact .inl (List.mem_singleton.mp hsent)
    · split at hsent
      · exact .inl (List.mem_singleton.mp hsent)
      · exact .inl (List.mem_singleton.mp hsent)
      · rename_i next more hnext
        exact (List.mem_cons.mp hsent).imp_right fun hmore =>
          ⟨_, next, more, _, hnext, rfl, hmore⟩

/-- Wherever a request is sent on to, its names stand once if they do so at first. -/
theorem nodup_names_follow (h : (names draft.headers).Nodup)
    (hsent : sent ∈ (follow network patience first left draft server).sent) :
    (names sent.headers).Nodup := by
  induction left generalizing draft server with
  | zero =>
    rcases mem_sent_follow hsent with rfl | ⟨_, _, _, _, _, hleft, _⟩
    · rwa [names_wire]
    · cases hleft
  | succ left ih =>
    rcases mem_sent_follow hsent with rfl | ⟨_, next, _, _, hnext, hleft, hmore⟩
    · rwa [names_wire]
    · obtain rfl := Nat.succ.inj hleft
      exact ih (nodup_names_redirected h hnext) hmore

/-- A request that is sent was drafted, and is sent at first as it was drafted. -/
theorem exists_draft_of_sent {endpoints : List (String × Endpoint)} {request : ApiReplay.Request}
    {plan : Plan} {more : List Request} (hplan : Http.plan endpoints request = .ok plan)
    (hsent : (perform network service endpoints request server).1.sent = sent :: more) :
    ∃ draft, Http.draft service request.headers plan = .ok draft ∧ sent = draft.wire ∧
      sent :: more = (send network service.timeout draft server).sent := by
  rw [perform, hplan] at hsent
  dsimp only at hsent
  split at hsent
  · cases hsent
  · rename_i draft hdraft
    have hall : (send network service.timeout draft server).sent = sent :: more := hsent
    have hhead : (send network service.timeout draft server).sent.head? = some sent := by
      rw [hall]
      rfl
    exact ⟨draft, hdraft, eq_wire_of_follow hhead, hall.symm⟩

end

/-- **Declared headers are the ones that are sent, where none is told from two sides.** Take a
request that declares each header once, and that is sent. Every header that it is first sent with
stands there once, and those that it declares have the values that it declares, without the blanks
around them, exactly when the client is not identified from two sides and no list or text comes with
a declared type. Then no name stands twice either where the request is sent on to. -/
theorem declared_headers_sent_iff (network : Network) (service : Config.Service)
    (endpoints : List (String × Endpoint)) (request : ApiReplay.Request) (server : Server)
    (plan : Plan) (url : Url) (first : Request) (more : List Request)
    (hdistinct : (request.headers.map fun h => lower h.1).Nodup)
    (hplan : Http.plan endpoints request = .ok plan)
    (hurl : Url.parse? (withoutSlashes service.url ++ plan.path).toList = some url)
    (hsent : (perform network service endpoints request server).1.sent = first :: more) :
    ((∀ sent ∈ first :: more, (names sent.headers).Nodup) ∧
      ∀ header ∈ request.headers,
        headerValue? (lower header.1) first.headers = some (trimValue header.2)) ↔
      ToldOnce service url.takeUser.2 request.headers plan.body := by
  obtain ⟨draft, hdraft, rfl, hall⟩ := exists_draft_of_sent hplan hsent
  rw [← nodup_names_draft_iff hdistinct hdraft hurl]
  constructor
  · rintro ⟨hnodup, -⟩
    rw [← names_wire]
    exact hnodup _ List.mem_cons_self
  · intro hnodup
    refine ⟨fun sent hmem => nodup_names_follow hnodup (hall ▸ hmem), fun header hheader => ?_⟩
    refine headerValue?_eq_some_of_mem ((names_wire draft).symm ▸ hnodup) ?_
    exact List.mem_map.mpr ⟨_, mem_headers_of_draft hdraft hheader, rfl⟩

/-- The declared type of a tree, and an identity that only the request tells. -/
theorem declared_headers_sent_of_tree :
    let request : ApiReplay.Request :=
      ⟨"search", .object [("body", .object [])],
        [("Content-Type", "text/plain"), ("Authorization", " Bearer t")]⟩
    (request.headers.map fun h => lower h.1).Nodup ∧
      ∃ first, (perform ⟨"http://localhost:9200"⟩ {} [] request []).1.sent = [first] ∧
        (names first.headers).Nodup ∧
        headerValue? "content-type" first.headers = some "text/plain" ∧
        headerValue? "authorization" first.headers = some "Bearer t" := by
  intro request
  have hdistinct : (request.headers.map fun h => lower h.1).Nodup := by decide
  obtain ⟨first, hsent⟩ :
      ∃ first, (perform ⟨"http://localhost:9200"⟩ {} [] request []).1.sent = [first] :=
    List.length_eq_one_iff.mp (by decide +kernel)
  have hplan : Http.plan [] request = .ok
      ⟨standardEndpoint "POST" ["/\x7bindex\x7d/_search", "/_search"], "/_search", [],
        some (.object [])⟩ := by
    rfl
  have hurl : Url.parse? "http://localhost:9200/_search".toList = some
      { scheme := "http".toList, path := "/_search".toList,
        authority := some { host := "localhost".toList, port := some 9200 } } := by
    decide +kernel
  obtain ⟨hnodup, hvalues⟩ :=
    (declared_headers_sent_iff _ {} [] request [] _ _ first [] hdistinct hplan hurl hsent).mpr
      ⟨by decide, by decide⟩
  have htype : lower "Content-Type" = "content-type" ∧ trimValue "text/plain" = "text/plain" := by
    decide +kernel
  have hauthorization :
      lower "Authorization" = "authorization" ∧ trimValue " Bearer t" = "Bearer t" := by
    decide +kernel
  refine ⟨hdistinct, first, hsent, hnodup first List.mem_cons_self, ?_, ?_⟩
  · rw [← htype.1, ← htype.2]
    exact hvalues ("Content-Type", "text/plain") List.mem_cons_self
  · rw [← hauthorization.1, ← hauthorization.2]
    exact hvalues ("Authorization", " Bearer t") (List.mem_cons_of_mem _ List.mem_cons_self)

/-- The type of a list is sent beside a declared one, and a key beside a declared identity. -/
theorem declared_headers_sent_twice :
    let service : Config.Service := { apiKey := some "k" }
    let request : ApiReplay.Request :=
      ⟨"bulk", .object [("body", .array [.object []])],
        [("Content-Type", "application/json"), ("Authorization", "Bearer t")]⟩
    let sent := (perform ⟨"http://localhost:9200"⟩ service [] request []).1.sent.map (·.headers)
    (request.headers.map fun h => lower h.1).Nodup ∧
      sent = [[("authorization", "ApiKey k"), ("content-type", "application/json"),
        ("authorization", "Bearer t"), ("content-type", "application/x-ndjson"),
        ("accept", "*/*"), ("user-agent", "api-conformance")]] ∧
      ∀ headers ∈ sent, ¬ (names headers).Nodup := by
  intro service request sent
  have hsent : sent = [[("authorization", "ApiKey k"), ("content-type", "application/json"),
      ("authorization", "Bearer t"), ("content-type", "application/x-ndjson"),
      ("accept", "*/*"), ("user-agent", "api-conformance")]] := by
    decide +kernel
  refine ⟨by decide, hsent, fun headers hheaders => ?_⟩
  rw [hsent, List.mem_singleton] at hheaders
  rw [hheaders]
  decide

end ApiReplay.Http
