import ApiReplay.Proofs.Http.Headers
import ApiReplay.Proofs.Json.OneLine
import ApiReplay.Proofs.Text.Parts

/-!
# Lists are sent line by line

A list as a body is sent with one line for each item: a text as it is, and any other tree compactly.
The compact text of a tree is one line whatever texts and keys stand in it. So the lines are found
again where the line feeds are, as long as the texts among the items have none of their own. A
redirection changes nothing about the body, or drops all of it.

## Main definitions

* `Http.Frames`: a text has a line for each item, and is cut into these lines.

## Main results

* `Http.Frames.map_plainText_eq`: the items are told from the text as far as their own texts go.
* `Http.frames_lines`: the lines of a list.
* `Http.body_of_mem_sent_follow`: the bodies that are sent on the way of a request.
* `Http.frames_of_sent`: what is sent of a request that has a list for its body.
-/

namespace ApiReplay.Http

variable {items : List Json}

/-- A text has a line for each item, and is cut into these lines. -/
structure Frames (items : List Json) (text : String) : Prop where
  /-- There is one line feed for each item. -/
  count_eq : text.toList.count '\n' = items.length
  /-- Without items there is nothing at all. -/
  eq_empty : items = [] → text = ""
  /-- The text ends with a line feed otherwise. -/
  getLast?_eq : items ≠ [] → text.toList.getLast? = some '\n'
  /-- The line feeds cut out the texts among the items as they are and the other items in their
  compact form, in order, and leave nothing behind. -/
  splitOn_eq : text.toList.splitOn '\n' = items.map (fun item => item.plainText.toList) ++ [[]]

/-- Two lists with the same lines have items with the same texts. -/
theorem Frames.map_plainText_eq {others : List Json} {text : String} (h : Frames items text)
    (hothers : Frames others text) : items.map Json.plainText = others.map Json.plainText := by
  have hlines : items.map (fun item => item.plainText.toList)
      = others.map fun item => item.plainText.toList :=
    List.append_cancel_right (h.splitOn_eq.symm.trans hothers.splitOn_eq)
  refine List.map_injective_iff.mpr (fun _ _ => String.toList_injective) ?_
  rwa [List.map_map, List.map_map]

/-! ### The lines of a list -/

theorem toList_lines (items : List Json) :
    (lines items).toList
      = (items.map fun item => item.plainText.toList).flatMap (· ++ ['\n']) := by
  rw [lines, String.toList_join, List.flatMap_map, List.flatMap_map]
  simp only [String.toList_append]
  rfl

/-- An item is one line, unless it is a text of several. -/
theorem newline_notMem_plainText {item : Json}
    (h : ∀ s, item = .string s → '\n' ∉ s.toList) : '\n' ∉ item.plainText.toList := by
  cases item with
  | string s => exact h s rfl
  | _ => exact Json.newline_notMem_text _

theorem frames_lines (h : ∀ s, .string s ∈ items → '\n' ∉ s.toList) :
    Frames items (lines items) := by
  have hlines : ∀ line ∈ items.map (fun item => item.plainText.toList), '\n' ∉ line := by
    intro line hline
    obtain ⟨item, hitem, rfl⟩ := List.mem_map.mp hline
    exact newline_notMem_plainText fun s hs => h s (hs ▸ hitem)
  constructor
  case count_eq => rw [toList_lines, Text.count_flatMap hlines, List.length_map]
  case eq_empty => rintro rfl; rfl
  case getLast?_eq =>
    intro hne
    rw [toList_lines, Text.getLast?_flatMap '\n' (mt List.map_eq_nil_iff.mp hne)]
  case splitOn_eq =>
    rw [toList_lines, ← Text.splitAtEach_eq_splitOn, Text.splitAtEach_flatMap hlines]

/-! ### Bodies on the way of a request -/

/-- A redirection keeps the body or drops it. -/
theorem body_of_redirected {draft next : Draft} {reply : Reply}
    (h : draft.redirected? reply = some next) : next.body = draft.body ∨ next.body = none := by
  obtain ⟨kept, url, rfl | ⟨method, rfl⟩, rfl⟩ := exists_moved_of_redirected h
  · exact .inl rfl
  · exact .inr rfl

section

variable {network : Network} {service : Config.Service} {endpoints : List (String × Endpoint)}
  {request : ApiReplay.Request} {server : Server}

/-- Wherever a request is sent on to, it has the body that it had at first, or none. -/
theorem body_of_mem_sent_follow {patience left : Nat} {first : Url} {draft : Draft}
    {sent : Request} (hsent : sent ∈ (follow network patience first left draft server).sent) :
    sent.body = draft.wire.body ∨ sent.body = "" := by
  induction left generalizing draft server with
  | zero =>
    rcases mem_sent_follow hsent with rfl | ⟨_, _, _, _, _, hleft, _⟩
    · exact .inl rfl
    · cases hleft
  | succ left ih =>
    rcases mem_sent_follow hsent with rfl | ⟨_, next, _, _, hnext, hleft, hmore⟩
    · exact .inl rfl
    · obtain rfl := Nat.succ.inj hleft
      -- a body that a redirection drops stays away, also where the rest of the way would keep it
      rcases ih hmore, body_of_redirected hnext with ⟨hbody | hbody, hkept | hdropped⟩
      · exact .inl (by rw [hbody, Draft.wire, Draft.wire, hkept])
      · exact .inr (by rw [hbody, Draft.wire, hdropped]; rfl)
      · exact .inr hbody
      · exact .inr hbody

/-- The body of a request is the parameter of that name. -/
theorem body_of_plan {plan : Plan} {params : List (String × Json)}
    (hparams : request.params = .object params) (hplan : Http.plan endpoints request = .ok plan) :
    plan.body = Entries.find? "body" params := by
  obtain ⟨endpoint, params', path, left, -, hentries, -, -, rfl⟩ := plan_eq_ok_iff.mp hplan
  rw [paramEntries, hparams] at hentries
  rw [Except.ok.inj hentries]

/-- A list is drafted as its lines. -/
theorem body_of_draft {headers : List Header} {plan : Plan} {draft : Draft}
    (hdraft : Http.draft service headers plan = .ok draft) (hbody : plan.body = some (.array items)) :
    draft.body = some (lines items) := by
  obtain ⟨url, -, rfl⟩ := exists_draft_eq hdraft
  rw [hbody]
  rfl

end

/-- **A list is sent line by line, without loss.** Take a request whose body is a list, of which no
text has a line feed. Whatever the server does, the body that is sent first has one line feed for
each item, ends with one unless the list is empty, and is cut by them into the texts as they are and
the compact texts of the other items. What is sent behind a redirection has the same body, or none
at all. -/
theorem frames_of_sent (network : Network) (service : Config.Service)
    (endpoints : List (String × Endpoint)) (request : ApiReplay.Request) (server : Server)
    (params : List (String × Json)) (items : List Json) (first : Request) (more : List Request)
    (hparams : request.params = .object params)
    (hbody : Entries.find? "body" params = some (.array items))
    (hlines : ∀ s, .string s ∈ items → '\n' ∉ s.toList)
    (hsent : (perform network service endpoints request server).1.sent = first :: more) :
    Frames items first.body ∧ ∀ again ∈ more, again.body = first.body ∨ again.body = "" := by
  cases hplan : Http.plan endpoints request with
  | error e =>
    rw [perform, hplan] at hsent
    cases hsent
  | ok plan =>
    obtain ⟨draft, hdraft, rfl, hall⟩ := exists_draft_of_sent hplan hsent
    have hlist : draft.body = some (lines items) :=
      body_of_draft hdraft ((body_of_plan hparams hplan).trans hbody)
    constructor
    · rw [Draft.wire, hlist]
      exact frames_lines hlines
    · intro again hagain
      refine body_of_mem_sent_follow (?_ : again ∈ (send network service.timeout draft server).sent)
      rw [← hall]
      exact List.mem_cons_of_mem _ hagain

/-- Line feeds in texts and keys below the items, an empty text, and a redirection that drops the
body. -/
theorem frames_of_sent_of_nested :
    let items : List Json :=
      [.object [("a\nb", .array [.string "c\n", .null])], .string "\x7b\x7d", .string ""]
    let request : ApiReplay.Request := ⟨"bulk", .object [("body", .array items)], []⟩
    let server : Server := [.reply { status := 303, headers := [("location", "/")] }, .closed]
    (∀ s, .string s ∈ items → '\n' ∉ s.toList) ∧
      ∃ first again, (perform ⟨"http://localhost:9200"⟩ {} [] request server).1.sent
          = [first, again] ∧ Frames items first.body ∧ again.body = "" := by
  intro items request server
  have hlines : ∀ s, .string s ∈ items → '\n' ∉ s.toList := by
    intro s hs
    simp only [items, List.mem_cons, reduceCtorEq, Json.string.injEq, List.not_mem_nil, or_false,
      false_or] at hs
    rcases hs with rfl | rfl <;> decide
  obtain ⟨first, again, hsent⟩ : ∃ first again,
      (perform ⟨"http://localhost:9200"⟩ {} [] request server).1.sent = [first, again] :=
    List.length_eq_two.mp (by decide +kernel)
  have hlast : (perform ⟨"http://localhost:9200"⟩ {} [] request server).1.sent.getLast?.map
      (·.body) = some "" := by
    decide +kernel
  obtain ⟨hframes, -⟩ := frames_of_sent ⟨"http://localhost:9200"⟩ {} [] request server
    [("body", .array items)] items first [again] rfl rfl hlines hsent
  rw [hsent] at hlast
  exact ⟨hlines, first, again, hsent, hframes, Option.some.inj hlast⟩

end ApiReplay.Http
