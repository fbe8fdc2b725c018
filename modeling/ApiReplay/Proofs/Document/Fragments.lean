import ApiReplay.Document.Reader
import ApiReplay.Proofs.Document.Tests
import ApiReplay.Run.Basic

/-!
# The fragments of a document

A document is read from a stream of fragments, each null or a mapping. Where a fragment ends does not
matter: the entries of all fragments are taken one after the other. The draft that is being gathered
says at each point what the entries so far say (`Document.Draft.Gathers`), so the document is told by
its requirement, the last of the stream, and by its content. Two streams that agree in these give the
same tests, and a run does not tell them apart.

## Main definitions

* `Document.entries`: the entries of a stream, wherever its fragments end.
* `Document.requirementOf`, `Document.contentOf`: the requirement and the content of a stream.
* `Document.Reads`: what a stream is read as.

## Main results

* `Document.exists_gather`: gathering a stream of mappings never fails.
* `Document.reading_of_mappings`: the reading of a stream of mappings.
* `Run.document_eq_of_contentOf_eq`: a run does not tell streams of one content apart.
-/

namespace ApiReplay

namespace Document

/-! ### Streams of entries -/

/-- The entries of the fragments of a stream, one after the other. -/
def entries (fragments : List Json) : List (String × Json) :=
  fragments.flatMap fun fragment => fragment.object?.getD []

/-- The values under a key, in the order of their entries. -/
def valuesUnder (key : String) (stream : List (String × Json)) : List Json :=
  (stream.filter (·.1 = key)).map Prod.snd

/-- Whether a key is the title of a test. -/
def isTitle (key : String) : Bool :=
  !(["requires", "setup", "teardown"].contains key)

/-- What the last requirement among the entries is read as. -/
def lastRequirement (stream : List (String × Json)) : Option (Except DocumentFault Requirement) :=
  (valuesUnder "requires" stream).getLast?.map Requirement.parse

/-- The requirement of a stream. -/
def requirementOf (fragments : List Json) : Option (Except DocumentFault Requirement) :=
  lastRequirement (entries fragments)

/-- The steps of a stream, wherever its fragments and its lists of steps end. -/
def contentOf (fragments : List Json) : Content where
  setup := (valuesUnder "setup" (entries fragments)).flatMap steps
  teardown := (valuesUnder "teardown" (entries fragments)).flatMap steps
  tests := ((entries fragments).filter (isTitle ·.1)).map fun t => (t.1, steps t.2)

/-- Every fragment is null or a mapping, and every requirement is a mapping. -/
structure Mappings (fragments : List Json) : Prop where
  fragment : ∀ fragment ∈ fragments, fragment = .null ∨ ∃ own, fragment = .object own
  requires : ∀ value ∈ valuesUnder "requires" (entries fragments), ∃ own, value = .object own

/-- All values of a stream but the requirements are lists of steps. -/
def OnlySteps (fragments : List Json) : Prop :=
  ∀ entry ∈ entries fragments, entry.1 ≠ "requires" → isStepList entry.2

theorem valuesUnder_concat (key k : String) (value : Json) (stream : List (String × Json)) :
    valuesUnder key (stream ++ [(k, value)])
      = valuesUnder key stream ++ if k = key then [value] else [] := by
  by_cases h : k = key <;> simp [valuesUnder, h]

theorem mem_valuesUnder {key : String} {value : Json} {stream : List (String × Json)} :
    value ∈ valuesUnder key stream ↔ (key, value) ∈ stream := by
  simp [valuesUnder]

theorem isTitle_iff {key : String} :
    isTitle key ↔ key ≠ "requires" ∧ key ≠ "setup" ∧ key ≠ "teardown" := by
  simp [isTitle]

theorem lastRequirement_eq_none_iff {stream : List (String × Json)} :
    lastRequirement stream = none ↔ ∀ entry ∈ stream, entry.1 ≠ "requires" := by
  simp [lastRequirement, valuesUnder]

/-- A stream has a requirement unless no fragment has one. -/
theorem requirementOf_eq_none_iff {fragments : List Json} :
    requirementOf fragments = none ↔
      ∀ fragment ∈ fragments, fragment.get? "requires" = none := by
  rw [requirementOf, lastRequirement_eq_none_iff, entries, List.forall_mem_flatMap]
  refine forall₂_congr fun fragment _ => ?_
  cases fragment <;> simp [Json.get?, Json.object?, Entries.find?_eq_none_iff]

/-! ### Gathering -/

/-- A draft says what the entries of a stream say. -/
structure Draft.Gathers (draft : Draft) (stream : List (String × Json)) : Prop where
  requires_eq : draft.requires.map Except.ok = lastRequirement stream
  setup_eq : draft.setup = valuesUnder "setup" stream
  teardown_eq : draft.teardown = valuesUnder "teardown" stream
  tests_eq : draft.tests = stream.filter (isTitle ·.1)

variable {draft : Draft} {stream : List (String × Json)}

theorem Draft.add_of_isTitle (draft : Draft) {key : String} (h : isTitle key) (value : Json) :
    draft.add (key, value) = .ok { draft with tests := draft.tests ++ [(key, value)] } := by
  obtain ⟨hrequires, hsetup, hteardown⟩ := isTitle_iff.mp h
  simp only [Draft.add]

/-- One more entry is gathered, unless it is a requirement that is no mapping. -/
theorem Draft.Gathers.exists_add (h : draft.Gathers stream) {entry : String × Json}
    (hentry : entry.1 = "requires" → ∃ own, entry.2 = .object own) :
    ∃ next, draft.add entry = .ok next ∧ next.Gathers (stream ++ [entry]) := by
  obtain ⟨key, value⟩ := entry
  obtain ⟨hrequires, hsetup, hteardown, htests⟩ := h
  by_cases hkey : isTitle key
  case pos =>
    have hne := isTitle_iff.mp hkey
    refine ⟨_, draft.add_of_isTitle hkey value, ?_, ?_, ?_, ?_⟩ <;>
      simp_all [lastRequirement, valuesUnder_concat]
  case neg =>
    have hreserved : key = "requires" ∨ key = "setup" ∨ key = "teardown" := by
      simpa [isTitle_iff, Classical.or_iff_not_imp_left] using hkey
    obtain rfl | rfl | rfl := hreserved
    · obtain ⟨own, hown⟩ := hentry rfl
      cases hown
      refine ⟨_, rfl, ?_, ?_, ?_, ?_⟩ <;>
        simp_all [lastRequirement, valuesUnder_concat, Requirement.parse]
    · refine ⟨_, rfl, ?_, ?_, ?_, ?_⟩ <;> simp_all [lastRequirement, valuesUnder_concat]
    · refine ⟨_, rfl, ?_, ?_, ?_, ?_⟩ <;> simp_all [lastRequirement, valuesUnder_concat]

/-- A loop whose passes each gather some entries gathers the entries of all its passes. -/
theorem Draft.Gathers.exists_foldlM {α : Type} {pass : Draft → α → Except DocumentFault Draft}
    {own : α → List (String × Json)} {items : List α} (h : draft.Gathers stream)
    (hpass : ∀ item ∈ items, ∀ (d : Draft) (seen : List (String × Json)), d.Gathers seen →
      ∃ next, pass d item = .ok next ∧ next.Gathers (seen ++ own item)) :
    ∃ last, items.foldlM pass draft = .ok last ∧ last.Gathers (stream ++ items.flatMap own) := by
  induction items generalizing draft stream with
  | nil => exact ⟨draft, rfl, by simpa using h⟩
  | cons item rest ih =>
    obtain ⟨hitem, hrest⟩ := List.forall_mem_cons.mp hpass
    obtain ⟨next, hnext, hgathers⟩ := hitem draft stream h
    obtain ⟨last, hlast, hall⟩ := ih hgathers hrest
    refine ⟨last, ?_, ?_⟩
    · rw [List.foldlM_cons, hnext]
      exact hlast
    · simpa using hall

/-- The entries of a fragment are gathered. -/
theorem Draft.Gathers.exists_addFragment (h : draft.Gathers stream) {fragment : Json}
    (hmapping : fragment = .null ∨ ∃ own, fragment = .object own)
    (hrequires : ∀ entry ∈ fragment.object?.getD [], entry.1 = "requires" →
      ∃ own, entry.2 = .object own) :
    ∃ next, draft.addFragment fragment = .ok next ∧
      next.Gathers (stream ++ fragment.object?.getD []) := by
  obtain rfl | ⟨own, rfl⟩ := hmapping
  · exact ⟨draft, rfl, by simpa [Json.object?] using h⟩
  · have hall : ∃ last, own.foldlM Draft.add draft = .ok last ∧
        last.Gathers (stream ++ own.flatMap fun entry => [entry]) :=
      h.exists_foldlM fun entry hentry d seen hd => hd.exists_add (hrequires entry hentry)
    rwa [List.flatMap_singleton'] at hall

/-- Gathering a stream of mappings never fails. -/
theorem exists_gather {fragments : List Json} (h : Mappings fragments) :
    ∃ draft, gather fragments = .ok draft ∧ draft.Gathers (entries fragments) := by
  have hempty : Draft.Gathers {} [] := ⟨rfl, rfl, rfl, rfl⟩
  refine hempty.exists_foldlM fun fragment hfragment d seen hd => ?_
  refine hd.exists_addFragment (h.fragment fragment hfragment) fun entry hentry hkey => ?_
  refine h.requires entry.2 (mem_valuesUnder.mpr ?_)
  rw [← hkey]
  exact List.mem_flatMap.mpr ⟨fragment, hfragment, hentry⟩

/-! ### The document of a stream -/

/-- A document holds what the entries of a stream say. -/
def Gathered (d : Document) (fragments : List Json) : Prop :=
  Draft.Gathers ⟨some d.requires, d.setup, d.teardown, d.tests⟩ (entries fragments)

/-- A stream of mappings without a requirement is no document; any other is one. -/
theorem gathered_ofYaml {fragments : List Json} (h : Mappings fragments) :
    match ofYaml ⟨fragments, true⟩ with
    | .error e => e = .missingRequires ∧ requirementOf fragments = none
    | .ok d => d.Gathered fragments := by
  obtain ⟨⟨requires, setup, teardown, tests⟩, hdraft, hgathers⟩ := exists_gather h
  simp only [ofYaml, hdraft, if_true]
  cases requires with
  | none => exact ⟨rfl, hgathers.requires_eq.symm⟩
  | some requires => exact hgathers

section Gathered

variable {d : Document} {fragments : List Json} (h : d.Gathered fragments)

include h

theorem Gathered.requirement_eq : requirementOf fragments = some (.ok d.requires) :=
  h.requires_eq.symm

theorem Gathered.content_eq : d.content = contentOf fragments := by
  obtain ⟨-, hsetup, hteardown, htests⟩ := h
  simp only at hsetup hteardown htests
  rw [content, contentOf, hsetup, hteardown, htests]

theorem Gathered.titles_eq : d.titles = ((entries fragments).map Prod.fst).filter isTitle := by
  rw [titles, List.filter_map]
  exact congrArg (List.map Prod.fst) h.tests_eq

theorem Gathered.stepLists (hsteps : OnlySteps fragments) : d.StepLists := by
  obtain ⟨-, hsetup, hteardown, htests⟩ := h
  simp only at hsetup hteardown htests
  intro tree htree
  simp only [hsetup, hteardown, htests, List.mem_append, mem_valuesUnder, List.mem_map,
    List.mem_filter] at htree
  obtain (hmem | hmem) | ⟨entry, ⟨hmem, htitle⟩, rfl⟩ := htree
  · exact hsteps _ hmem (by simp)
  · exact hsteps _ hmem (by simp)
  · exact hsteps entry hmem (isTitle_iff.mp htitle).1

end Gathered

/-- What is to be seen of a document: its requirement, its titles, its tests, and the kinds of steps
that building them passes over. -/
def view (d : Document) :
    Requirement × List String × (String → Except DocumentFault (List Case)) × List String :=
  (d.requires, d.titles, d.cases, d.ignored)

/-- What is to be seen of a document with a given content. -/
def Content.view (c : Content) (requires : Requirement) :
    Requirement × List String × (String → Except DocumentFault (List Case)) × List String :=
  (requires, c.tests.map Prod.fst, c.build, Action.ignoredAmong c.steps)

theorem view_eq {d : Document} (h : d.StepLists) : d.view = d.content.view d.requires := by
  have htitles : d.titles = d.content.tests.map Prod.fst := by simp [titles, content]
  rw [view, Content.view, ignored_eq h, htitles, funext (cases_eq_build h)]

/-- Nothing is to be seen of a stream but its requirement and its content. -/
theorem map_view_ofYaml {fragments : List Json} (h : Mappings fragments)
    (hsteps : OnlySteps fragments) :
    (ofYaml ⟨fragments, true⟩).map view =
      match requirementOf fragments with
      | some (.ok requires) => .ok ((contentOf fragments).view requires)
      | _ => .error .missingRequires := by
  have hread := gathered_ofYaml h
  cases hd : ofYaml ⟨fragments, true⟩ with
  | error e =>
    rw [hd] at hread
    obtain ⟨rfl, hnone⟩ := hread
    rw [hnone]
    rfl
  | ok d =>
    rw [hd] at hread
    rw [hread.requirement_eq, Except.map, view_eq (hread.stepLists hsteps), hread.content_eq]

/-- Streams with one requirement and one content are read as the same, however their entries are cut
into fragments and follow each other. -/
theorem view_ofYaml_eq {a b : List Json} (ha : Mappings a) (hb : Mappings b)
    (hastep : OnlySteps a) (hbstep : OnlySteps b) (hrequires : requirementOf a = requirementOf b)
    (hcontent : contentOf a = contentOf b) :
    (ofYaml ⟨a, true⟩).map view = (ofYaml ⟨b, true⟩).map view := by
  rw [map_view_ofYaml ha hastep, map_view_ofYaml hb hbstep, hrequires, hcontent]

/-- What a stream of fragments is read as. The requirement is the last of the stream, and the titles
are all other keys but those of the setup and the teardown, in the order of the stream. When the
values are lists of steps, the tests are those of the content of the stream. -/
structure Reads (fragments : List Json) (d : Document) : Prop where
  requirement_eq : requirementOf fragments = some (.ok d.requires)
  titles_eq : d.titles = ((entries fragments).map Prod.fst).filter isTitle
  builds : OnlySteps fragments → ∀ source, (contentOf fragments).Builds source (d.cases source)

/-- **Fragments.** When its markup has no fault, reading a stream of mappings fails only for want of a
requirement in all of its fragments. Otherwise the document has the last requirement and all titles
of the stream; its tests share the actions of the whole setup and of the whole teardown, or the error
is that of the first malformed step. Another stream with the same requirement and content is read as
the same, wherever its fragments end. -/
theorem reading_of_mappings (fragments : List Json) (h : Mappings fragments) :
    (∀ e, ofYaml ⟨fragments, true⟩ = .error e ↔
      e = .missingRequires ∧ ∀ fragment ∈ fragments, fragment.get? "requires" = none) ∧
    (∀ d, ofYaml ⟨fragments, true⟩ = .ok d → Reads fragments d) ∧
    (OnlySteps fragments → ∀ other, Mappings other → OnlySteps other →
      requirementOf other = requirementOf fragments → contentOf other = contentOf fragments →
      (ofYaml ⟨other, true⟩).map view = (ofYaml ⟨fragments, true⟩).map view) := by
  have hread := gathered_ofYaml h
  refine ⟨?fails, ?reads, fun hsteps other hother hothersteps hrequires hcontent =>
    view_ofYaml_eq hother h hothersteps hsteps hrequires hcontent⟩
  case fails =>
    intro e
    rw [← requirementOf_eq_none_iff]
    cases hd : ofYaml ⟨fragments, true⟩ with
    | error e' =>
      rw [hd] at hread
      obtain ⟨rfl, hnone⟩ := hread
      simp [hnone, eq_comm]
    | ok d =>
      rw [hd] at hread
      simp [hread.requirement_eq]
  case reads =>
    intro d hd
    rw [hd] at hread
    refine ⟨hread.requirement_eq, hread.titles_eq, fun hsteps source => ?_⟩
    rw [cases_eq_build (hread.stepLists hsteps), hread.content_eq]
    exact Content.builds _ source

/-- A setup in two pieces, a test between them and a requirement that is stated twice, cut into four
fragments in one stream and into one fragment in the other. -/
theorem reading_of_mappings_of_interleaved :
    let ping : Json := .object [("do", .string "ping")]
    let info : Json := .object [("do", .string "info")]
    let a : List Json :=
      [.object [("requires", .object [("serverless", .bool true)]), ("setup", .array [ping])], .null,
        .object [("one", .array [info]), ("teardown", .array [ping])],
        .object [("setup", .array [info]), ("two", .array []),
          ("requires", .object [("stack", .bool true)])]]
    let b : List Json :=
      [.object [("one", .array [info]), ("two", .array []), ("teardown", .array [ping]),
        ("requires", .object [("stack", .bool true)]), ("setup", .array [ping, info])]]
    Mappings a ∧ OnlySteps a ∧ Mappings b ∧ OnlySteps b ∧
      (ofYaml ⟨b, true⟩).map view = (ofYaml ⟨a, true⟩).map view ∧
      (∀ d, ofYaml ⟨a, true⟩ = .ok d → d.requires = ⟨true, false⟩ ∧ d.titles = ["one", "two"] ∧
        (contentOf a).Builds "a.yml" (d.cases "a.yml")) ∧
      ¬ ∃ e, ofYaml ⟨a, true⟩ = .error e := by
  intro ping info a b
  have ha : Mappings a := ⟨by simp [a], by simp [a, entries, valuesUnder, Json.object?]⟩
  have hb : Mappings b := ⟨by simp [b], by simp [b, entries, valuesUnder, Json.object?]⟩
  have hastep : OnlySteps a := by simp [a, OnlySteps, entries, Json.object?, isStepList]
  have hbstep : OnlySteps b := by simp [b, OnlySteps, entries, Json.object?, isStepList]
  obtain ⟨hfails, hreads, hsame⟩ := reading_of_mappings a ha
  refine ⟨ha, hastep, hb, hbstep, hsame hastep b hb hbstep rfl rfl, ?reads, ?succeeds⟩
  case reads =>
    intro d hd
    obtain ⟨hrequires, htitles, hbuilds⟩ := hreads d hd
    have hlast : requirementOf a = some (.ok ⟨true, false⟩) := rfl
    have hsome : some (Except.ok ⟨true, false⟩) = some (Except.ok d.requires) :=
      hlast.symm.trans hrequires
    refine ⟨?_, htitles.trans (by decide +kernel), hbuilds hastep "a.yml"⟩
    simpa using hsome.symm
  case succeeds =>
    rintro ⟨e, he⟩
    have hnone := ((hfails e).mp he).2 _ (List.mem_cons_self ..)
    cases hnone

end Document

/-! ### Runs -/

namespace Run

variable {σ : Type}

/-- A run sees nothing else of a document. -/
theorem document_eq_of_view_eq {a b : Except Error Document}
    (h : a.map Document.view = b.map Document.view) (client : Client σ) (flavor : Flavor)
    (file : String) (service : σ) :
    document client flavor file a service = document client flavor file b service := by
  cases a with
  | error e =>
    cases b with
    | error e' => cases h; rfl
    | ok d' => cases h
  | ok d =>
    cases b with
    | error e' => cases h
    | ok d' =>
      simp only [Except.map, Except.ok.injEq, Document.view, Prod.mk.injEq] at h
      obtain ⟨hrequires, -, hcases, hignored⟩ := h
      simp only [document, hrequires, hcases, hignored]

/-- A run does not tell apart streams with one requirement and one content. -/
theorem document_eq_of_contentOf_eq {a b : List Json} (ha : Document.Mappings a)
    (hb : Document.Mappings b) (hastep : Document.OnlySteps a) (hbstep : Document.OnlySteps b)
    (hrequires : Document.requirementOf a = Document.requirementOf b)
    (hcontent : Document.contentOf a = Document.contentOf b) (client : Client σ) (flavor : Flavor)
    (file : String) (service : σ) :
    document client flavor file (Document.ofYaml ⟨a, true⟩) service
      = document client flavor file (Document.ofYaml ⟨b, true⟩) service :=
  document_eq_of_view_eq (Document.view_ofYaml_eq ha hb hastep hbstep hrequires hcontent)
    client flavor file service

end Run

end ApiReplay
