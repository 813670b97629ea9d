/-
What checked settings are good for.

Settings are checked before any route line is read, so that the delimiter and the API mount path can be used by the
router. `Settings.Usable` says what this means: every API line with a plain path and two identifiers around the
delimiter is read as written, and its composed path is a pattern. The check asks for less than that.

- `usable_iff`: checked settings are usable exactly if the delimiter has a character that identifiers cannot have, and
  the mount path is a row of readable segments of which no two capture under one name (`Segment.Orderly`).
- `parse_compose_iff`: the second half, path by path. Collapsing keeps the parts of a path that are not empty, and the
  last one (`exists_split_collapse`).
- `unusable_checked`: settings that the check lets pass and that are not usable, one for either half.
-/
import Switchboard.Proofs.Lines
import Switchboard.Proofs.Patterns
import Switchboard.Settings.Check

namespace Switchboard

/-! ## Parts of composed paths -/

namespace Text

theorem split_append (sep : Char) (before rest : Text) :
    split sep (before ++ sep :: rest) = split sep before ++ split sep rest := by
  induction before with
  | nil => simp [split]
  | cons c before ih =>
    by_cases hc : c = sep
    · simp [split, hc, ih]
    · cases hs : split sep before with
      | nil => exact absurd hs (split_ne_nil sep before)
      | cons part parts => simp [split, hc, ih, hs]

end Text

namespace Path

/-- Collapsing keeps the first part, the last part and the parts between them that are not empty. -/
theorem exists_split_collapse (t : Text) :
    ∃ first rest rest', Text.split '/' t = first :: rest ∧ Text.split '/' (collapse t) = first :: rest' ∧
      rest'.filter (· ≠ []) = rest.filter (· ≠ []) ∧ rest'.getLast? = rest.getLast? := by
  induction t using collapse.induct with
  | case1 => exact ⟨[], [], [], rfl, rfl, rfl, rfl⟩
  | case2 rest ih =>
    obtain ⟨first, parts, parts', hsplit, hcollapse, hfilter, hlast⟩ := ih
    have hnext : Text.split '/' ('/' :: rest) = [] :: Text.split '/' rest := Text.split_cons_self '/' rest
    obtain ⟨rfl, rfl⟩ : [] = first ∧ Text.split '/' rest = parts := List.cons.inj (hnext.symm.trans hsplit)
    refine ⟨[], [] :: Text.split '/' rest, parts', Text.split_cons_self '/' _, by rw [collapse, hcollapse], ?_, ?_⟩
    · rw [hfilter, List.filter_cons_of_neg (by simp)]
    · obtain ⟨part, more, hmore⟩ := List.exists_cons_of_ne_nil (Text.split_ne_nil '/' rest)
      rw [hlast, hmore, List.getLast?_cons_cons]
  | case3 c rest hsingle ih =>
    obtain ⟨first, parts, parts', hsplit, hcollapse, hfilter, hlast⟩ := ih
    have hstep : collapse (c :: rest) = c :: collapse rest := by simp only [collapse]
    rw [hstep]
    by_cases hc : c = '/'
    · refine ⟨[], first :: parts, first :: parts', by simp [Text.split, hc, hsplit],
        by simp [Text.split, hc, hcollapse], ?_, ?_⟩
      · rw [List.filter_cons, List.filter_cons, hfilter]
      · simp only [List.getLast?_cons, hlast]
    · exact ⟨c :: first, parts, parts', by simp [Text.split, hc, hsplit], by simp [Text.split, hc, hcollapse],
        hfilter, hlast⟩

end Path

/-! ## Rows of written segments -/

namespace Segment

/-- text that stands for itself in a path -/
structure Plain (text : Text) : Prop where
  unbraced : ∀ c ∈ text, c ≠ '\x7b' ∧ c ≠ '\x7d'
  uncaptured : text.head? ≠ some ':'
  unstarred : text.head? ≠ some '*'

theorem plain_of_word {text : Text} (h : text.all Text.isWordChar = true) : Plain text := by
  have hword := List.all_eq_true.1 h
  have hmark : ∀ mark, Text.isWordChar mark = false → ∀ c ∈ text, c ≠ mark := by
    intro mark hmark c hc heq
    rw [← heq, hword c hc] at hmark
    cases hmark
  have hhead : ∀ mark, Text.isWordChar mark = false → text.head? ≠ some mark := fun mark hfalse hsome =>
    hmark mark hfalse mark (List.mem_of_head? hsome) rfl
  exact ⟨fun c hc => ⟨hmark _ (by decide) c hc, hmark _ (by decide) c hc⟩, hhead _ (by decide), hhead _ (by decide)⟩

/-- the name that a written segment captures a single segment under -/
def captured? : Text → Option Text
  | ':' :: name => some name
  | _ => none

/-- a written segment that can be read wherever it stands -/
structure Readable (text : Text) : Prop where
  unbraced : ∀ c ∈ text, c ≠ '\x7b' ∧ c ≠ '\x7d'
  unstarred : text.head? ≠ some '*'
  word : ∀ name, captured? text = some name → isWord name = true

/-- readable segments that capture under different names -/
structure Orderly (texts : List Text) : Prop where
  readable : ∀ text ∈ texts, Readable text
  distinct : (texts.filterMap captured?).Nodup

theorem Plain.captured? {text : Text} (h : Plain text) : captured? text = none := by
  unfold Segment.captured?
  split
  · exact absurd rfl h.uncaptured
  · rfl

theorem Plain.readable {text : Text} (h : Plain text) : Readable text :=
  { unbraced := h.unbraced
    unstarred := h.unstarred
    word := fun name hname => by rw [h.captured?] at hname; cases hname }

theorem any_brace_eq_false_iff {text : Text} :
    (text.any fun c => c = '\x7b' || c = '\x7d') = false ↔ ∀ c ∈ text, c ≠ '\x7b' ∧ c ≠ '\x7d' := by
  simp

/-- a readable segment is read, with the name it is written with -/
theorem Readable.read {text : Text} (h : Readable text) (isLast : Bool) :
    ∃ segment, Segment.read isLast text = .ok segment ∧ segment.name? = captured? text := by
  have hbrace := any_brace_eq_false_iff.2 h.unbraced
  rcases text with - | ⟨c, name⟩
  · exact ⟨.literal [], rfl, rfl⟩
  · by_cases hcolon : c = ':'
    · subst hcolon
      have hword : isWord name = true := h.word name rfl
      exact ⟨.capture name, by simp [Segment.read, hbrace, hword], rfl⟩
    · have hstar : c ≠ '*' := fun hc => h.unstarred (by rw [hc]; rfl)
      refine ⟨.literal (c :: name), ?_, ?_⟩
      · simp [Segment.read, hbrace, hcolon, hstar]
      · simp [name?, Segment.captured?, hcolon]

/-- before the last segment, nothing else is read -/
theorem readable_of_read {text : Text} {segment : Segment} (h : Segment.read false text = .ok segment) :
    Readable text := by
  unfold Segment.read at h
  split at h
  · cases h
  · rename_i hbrace
    have hunbraced := any_brace_eq_false_iff.1 (by simpa using hbrace)
    split at h
    · split_ifs at h with hword
      refine ⟨hunbraced, by simp, fun name hname => ?_⟩
      cases hname
      exact hword
    · cases h
    · rename_i hcolon hstar
      refine ⟨hunbraced, ?_, fun name hname => ?_⟩
      · intro hhead
        obtain ⟨name, rfl⟩ := List.head?_eq_some_iff.1 hhead
        exact hstar name rfl
      · unfold captured? at hname
        split at hname
        · rename_i rest
          exact absurd rfl (hcolon rest)
        · cases hname

theorem exists_readAll_cons {taken rest : List Text} {text : Text} (hrest : rest ≠ []) :
    (∃ segments, readAll taken (text :: rest) = .ok segments) ↔
      Readable text ∧ (∀ name, captured? text = some name → name ∉ taken) ∧
        ∃ segments, readAll ((captured? text).toList ++ taken) rest = .ok segments := by
  have hmap : ∀ (segment : Segment) (result : Except PatternFault (List Segment)),
      (∃ segments, result.map (segment :: ·) = .ok segments) ↔ ∃ segments, result = .ok segments := by
    intro segment result
    cases result <;> simp [Except.map]
  have hmore : rest.isEmpty = false := by simpa using hrest
  by_cases htext : Readable text
  · obtain ⟨segment, hread, hname⟩ := htext.read false
    simp only [readAll, hmore, hread]
    cases hcaptured : captured? text with
    | none =>
      rw [hcaptured] at hname
      simp [hname, hmap, htext]
    | some name =>
      rw [hcaptured] at hname
      by_cases htaken : name ∈ taken
      · simp [hname, htaken]
      · simp [hname, htaken, hmap, htext]
  · cases hread : Segment.read false text with
    | error fault => simp [readAll, hmore, hread, htext]
    | ok segment => exact absurd (readable_of_read hread) htext

/-- Segments before a plain last one are read exactly if they are readable and no name is captured twice. -/
theorem exists_readAll_iff {taken texts : List Text} {last : Text} (hlast : Plain last) :
    (∃ segments, readAll taken (texts ++ [last]) = .ok segments) ↔
      Orderly texts ∧ ∀ name ∈ texts.filterMap captured?, name ∉ taken := by
  induction texts generalizing taken with
  | nil =>
    obtain ⟨segment, hread, hname⟩ := hlast.readable.read true
    rw [hlast.captured?] at hname
    have hempty : Orderly [] := ⟨by simp, by simp⟩
    simp [readAll, hread, hname, Except.map, hempty]
  | cons text texts ih =>
    rw [List.cons_append, exists_readAll_cons (by simp), ih]
    constructor
    · rintro ⟨htext, hnew, htexts, hfresh⟩
      refine ⟨⟨List.forall_mem_cons.2 ⟨htext, htexts.readable⟩, ?_⟩, ?_⟩
      · cases hname : captured? text with
        | none => simpa [hname] using htexts.distinct
        | some name =>
          have hother : name ∉ texts.filterMap captured? := fun hmem => hfresh name hmem (by simp [hname])
          rw [List.filterMap_cons_some hname]
          exact List.nodup_cons.2 ⟨hother, htexts.distinct⟩
      · intro name hmem htaken
        obtain ⟨t, ht, hname⟩ := List.mem_filterMap.1 hmem
        rcases List.mem_cons.1 ht with rfl | ht
        · exact hnew name hname htaken
        · exact hfresh name (List.mem_filterMap.2 ⟨t, ht, hname⟩) (List.mem_append_right _ htaken)
    · rintro ⟨⟨hreadable, hdistinct⟩, hfresh⟩
      obtain ⟨htext, htexts⟩ := List.forall_mem_cons.1 hreadable
      have hhead : ∀ name, captured? text = some name →
          name ∈ (text :: texts).filterMap captured? ∧ name ∉ texts.filterMap captured? := by
        intro name hname
        rw [List.filterMap_cons_some hname] at hdistinct ⊢
        exact ⟨List.mem_cons_self, (List.nodup_cons.1 hdistinct).1⟩
      have hrest : ∀ name ∈ texts.filterMap captured?, name ∈ (text :: texts).filterMap captured? :=
        fun name hname => ((List.sublist_cons_self text texts).filterMap _).subset hname
      refine ⟨htext, fun name hname => hfresh name (hhead name hname).1,
        ⟨htexts, hdistinct.sublist ((List.sublist_cons_self text texts).filterMap _)⟩, ?_⟩
      intro name hmem htaken
      rcases List.mem_append.1 htaken with hsame | htaken
      · exact (hhead name (Option.mem_toList.1 hsame)).2 hmem
      · exact hfresh name (hrest name hmem) htaken

/-- plain segments are orderly beside whatever is -/
theorem orderly_append_iff {texts plain : List Text} (h : ∀ text ∈ plain, Plain text) :
    Orderly (texts ++ plain) ↔ Orderly texts := by
  have hnone : plain.filterMap captured? = [] := by
    rw [List.filterMap_eq_nil_iff]
    exact fun text htext => (h text htext).captured?
  constructor
  · rintro ⟨hreadable, hdistinct⟩
    refine ⟨fun text htext => hreadable text (List.mem_append_left _ htext), ?_⟩
    simpa [List.filterMap_append, hnone] using hdistinct
  · rintro ⟨hreadable, hdistinct⟩
    refine ⟨fun text htext => ?_, by simpa [List.filterMap_append, hnone] using hdistinct⟩
    rcases List.mem_append.1 htext with htext | htext
    · exact hreadable text htext
    · exact (h text htext).readable

/-- segments without any text make no difference -/
theorem orderly_filter_iff {texts : List Text} : Orderly (texts.filter (· ≠ [])) ↔ Orderly texts := by
  have hnames : (texts.filter (· ≠ [])).filterMap captured? = texts.filterMap captured? := by
    induction texts with
    | nil => rfl
    | cons text texts ih =>
      by_cases htext : text = []
      · rw [List.filter_cons_of_neg (by simp [htext]), ih, List.filterMap_cons_none (by rw [htext]; rfl)]
      · rw [List.filter_cons_of_pos (by simp [htext]), List.filterMap_cons, List.filterMap_cons, ih]
  constructor
  · rintro ⟨hreadable, hdistinct⟩
    refine ⟨fun text htext => ?_, hnames ▸ hdistinct⟩
    by_cases hnil : text = []
    · rw [hnil]
      exact ⟨by simp, by simp, fun name hname => by cases hname⟩
    · exact hreadable text (List.mem_filter.2 ⟨htext, by simpa using hnil⟩)
  · rintro ⟨hreadable, hdistinct⟩
    exact ⟨fun text htext => hreadable text (List.mem_filter.1 htext).1, hnames ▸ hdistinct⟩

end Segment

/-! ## Usable settings -/

/-- a word of a route line that is a path without captures -/
structure PlainPath (token : Text) : Prop where
  word : token ≠ [] ∧ ∀ c ∈ token, Text.isBlank c = false
  parts : ∀ part ∈ token.split '/', Segment.Plain part

/-- A mount path can stand before plain paths exactly if its segments are orderly. -/
theorem parse_compose_iff {mount token : Text} (htoken : PlainPath token) :
    (∃ pattern, Pattern.parse (Path.compose mount token) = .ok pattern) ↔ Segment.Orderly (mount.split '/') := by
  obtain ⟨first, parts, parts', hsplit, hcollapse, hfilter, hlast⟩ :=
    Path.exists_split_collapse ('/' :: (mount ++ '/' :: token))
  have hroot : Text.split '/' ('/' :: (mount ++ '/' :: token)) = [] :: (mount.split '/' ++ token.split '/') := by
    rw [← Text.split_append]
    simp [Text.split]
  obtain ⟨rfl, rfl⟩ : [] = first ∧ mount.split '/' ++ token.split '/' = parts :=
    List.cons.inj (hroot.symm.trans hsplit)
  -- the last part is the last part of the plain path
  obtain ⟨before, last, hend⟩ : ∃ before last, token.split '/' = before ++ [last] :=
    ⟨_, _, (List.dropLast_append_getLast (Text.split_ne_nil '/' token)).symm⟩
  have hplain : Segment.Plain last := htoken.parts last (by simp [hend])
  obtain ⟨init, rfl⟩ : ∃ init, parts' = init ++ [last] := by
    rw [hend, ← List.append_assoc, List.getLast?_concat] at hlast
    exact List.getLast?_eq_some_iff.1 hlast
  have hparts : Text.split '/' (Path.compose mount token) = [] :: init ++ [last] := by
    simpa [Path.compose] using hcollapse
  calc (∃ pattern, Pattern.parse (Path.compose mount token) = .ok pattern)
      ↔ ∃ segments, Segment.readAll [] ([] :: init ++ [last]) = .ok segments := by
        rw [Pattern.parse, hparts]
        cases Segment.readAll [] ([] :: init ++ [last]) <;> simp
    _ ↔ Segment.Orderly ([] :: init) := by
        rw [Segment.exists_readAll_iff hplain]
        simp
    _ ↔ Segment.Orderly ([] :: init ++ [last]) :=
        (Segment.orderly_append_iff (by simpa using hplain)).symm
    _ ↔ Segment.Orderly ((init ++ [last]).filter (· ≠ [])) := by
        rw [← Segment.orderly_filter_iff, List.cons_append, List.filter_cons_of_neg (by simp)]
    _ ↔ Segment.Orderly (mount.split '/' ++ token.split '/') := by
        rw [hfilter, Segment.orderly_filter_iff]
    _ ↔ Segment.Orderly (mount.split '/') := Segment.orderly_append_iff htoken.parts

namespace Settings

/-- Every API line with a plain path is read to the method, the path and the two identifiers it is written with, and
its composed path is a pattern. -/
def Usable (s : Settings) : Prop :=
  ∀ word method token controller action, Method.ofName? word = some method → PlainPath token →
    RouteLine.isIdentifier controller = true → RouteLine.isIdentifier action = true →
      RouteLine.read (word ++ ' ' :: (token ++ ' ' :: (controller ++ s.routing.delimiter ++ action)))
          s.routing.delimiter = .ok { method, path := token, controller, action, middleware := [] } ∧
        ∃ pattern, Pattern.parse (Path.compose s.routing.apiMount token) = .ok pattern

theorem delimiter_of_problems {s : Settings} (h : s.problems = []) :
    s.routing.delimiter ≠ [] ∧ ∀ c ∈ s.routing.delimiter, Text.isBlank c = false := by
  have hrouting : s.routing.problems = [] := by
    simp only [problems, List.append_eq_nil_iff] at h
    exact h.1.1
  simp only [RoutingSettings.problems, List.append_eq_nil_iff] at hrouting
  obtain ⟨hdelimiter, -⟩ := hrouting
  split_ifs at hdelimiter with hempty hblank
  exact ⟨hempty, by simpa using hblank⟩

theorem plainPath_x : PlainPath ['x'] := by
  refine ⟨⟨by simp, List.forall_mem_singleton.2 (by decide)⟩, fun part hpart => ?_⟩
  obtain rfl : part = ['x'] := by simpa [Text.split] using hpart
  exact Segment.plain_of_word (by decide)

/-- **When checked settings are usable.** Their delimiter needs a character that identifiers cannot have, or it is found
inside a controller's name; their mount path needs orderly segments. -/
theorem usable_iff {s : Settings} (checked : s.problems = []) :
    s.Usable ↔ (∃ c ∈ s.routing.delimiter, RouteLine.isIdentifierRest c = false) ∧
      Segment.Orderly (s.routing.apiMount.split '/') := by
  obtain ⟨hempty, hunblank⟩ := delimiter_of_problems checked
  have hreference : ∀ {controller action : Text}, RouteLine.isIdentifier controller = true →
      RouteLine.isIdentifier action = true → controller ++ s.routing.delimiter ++ action ≠ [] ∧
        ∀ c ∈ controller ++ s.routing.delimiter ++ action, Text.isBlank c = false := by
    intro controller action hcontroller haction
    refine ⟨by simp [hempty], fun c hc => ?_⟩
    rcases List.mem_append.1 hc with hc | hc
    · rcases List.mem_append.1 hc with hc | hc
      · exact RouteLine.isBlank_of_isIdentifier hcontroller c hc
      · exact hunblank c hc
    · exact RouteLine.isBlank_of_isIdentifier haction c hc
  constructor
  · intro h
    constructor
    · by_contra hletters
      push Not at hletters
      obtain ⟨controller, action, hcontroller, haction, hne⟩ :=
        RouteLine.exists_splitReference_ne (fun c hc => by simpa using hletters c hc) hempty
      obtain ⟨hread, -⟩ := h _ .get _ controller action (Method.ofName?_name .get) plainPath_x hcontroller haction
      rw [RouteLine.read_eq (Method.ofName?_name .get) plainPath_x.word (hreference hcontroller haction)] at hread
      split at hread
      · cases hread
      · rename_i found hfound
        cases hread
        exact hne hfound
    · obtain ⟨-, hparse⟩ := h _ .get _ ['A'] ['b'] (Method.ofName?_name .get) plainPath_x (by decide) (by decide)
      exact (parse_compose_iff plainPath_x).1 hparse
  · rintro ⟨htold, horderly⟩ word method token controller action hmethod htoken hcontroller haction
    refine ⟨?_, (parse_compose_iff htoken).2 horderly⟩
    rw [RouteLine.read_eq hmethod htoken.word (hreference hcontroller haction),
      RouteLine.splitReference_eq htold hcontroller haction]

/-- The theorem on the default settings, which are usable. -/
theorem usable_iff_default :
    ({} : Settings).problems = [] ∧
      (({} : Settings).Usable ↔ (∃ c ∈ ({} : Settings).routing.delimiter, RouteLine.isIdentifierRest c = false) ∧
        Segment.Orderly (({} : Settings).routing.apiMount.split '/')) ∧
      ({} : Settings).Usable := by
  have checked : ({} : Settings).problems = [] := by decide +kernel
  have horderly : Segment.Orderly (({} : Settings).routing.apiMount.split '/') := by
    have hplain : Segment.Plain ("api" : Text) := Segment.plain_of_word (by decide)
    have hsplit : ({} : Settings).routing.apiMount.split '/' = [[], "api"] := by decide
    rw [hsplit, ← Segment.orderly_filter_iff]
    exact ⟨by simpa using hplain.readable, by decide⟩
  have husable := usable_iff checked
  exact ⟨checked, husable, husable.2 ⟨⟨'@', by decide, by decide⟩, horderly⟩⟩

/-- The check lets pass a delimiter that ends `User`, with which `UserControllerrgetUsers` is read as `Use` and
`ControllerrgetUsers`, and a mount path with braces, under which no path is a pattern. -/
theorem unusable_checked :
    (({ routing := { delimiter := "r" } } : Settings).problems = [] ∧
      (RouteLine.read "GET /users UserControllerrgetUsers" "r").map (·.controller) = .ok "Use" ∧
      ¬({ routing := { delimiter := "r" } } : Settings).Usable) ∧
    ({ routing := { apiMount := "/\x7bv\x7d" } } : Settings).problems = [] ∧
      ¬({ routing := { apiMount := "/\x7bv\x7d" } } : Settings).Usable := by
  refine ⟨⟨by decide +kernel, by decide, fun h => ?_⟩, by decide +kernel, fun h => ?_⟩
  · obtain ⟨hread, -⟩ := h "GET" .get ['x'] "UserController" "getUsers" (by decide) plainPath_x (by decide) (by decide)
    exact absurd hread (by decide)
  · obtain ⟨-, hparse⟩ := h "GET" .get ['x'] "UserController" "getUsers" (by decide) plainPath_x (by decide) (by decide)
    obtain ⟨hreadable, -⟩ := (parse_compose_iff plainPath_x).1 hparse
    have hbrace := (hreadable "\x7bv\x7d" (by decide)).unbraced '\x7b' (by decide)
    exact hbrace.1 rfl

end Settings

end Switchboard
