/-
The route listing.

A display ends with its line, and nothing in a route line can break one: words hold no blank. Only the mount path of the
API lines is taken as it is configured.

- `RouteSummary.Listed`: what a line under a mount path is listed as. `Listed.break_mem_display_iff`: its display holds a
  line break exactly if the mount path does.
- `Text.lines_textOfLines_iff`: printed lines are read back exactly if none of them holds a line break.
- `Cli.Startable`: the configuration can be read and is valid, the manifest can be read, and the configured lines go
  through (`App.Configured`).
- `routes_all_or_nothing`: the program lists the display of every configured line, in order, exactly if it is startable,
  and fails without a route line otherwise. Its log is kept apart.
- `routes_broken_line`: one configured line that is listed on two lines.
-/
import Switchboard.Cli
import Switchboard.Proofs.Lines
import Switchboard.Proofs.Reaching
import Switchboard.Proofs.Registering

namespace Switchboard

/-! ## Printed lines -/

namespace Text

/-- the lines of a text, each of which has a line end -/
def lines (t : Text) : List Text :=
  (t.split '\n').dropLast

/-- Printed lines are read back exactly if none of them holds a line break. -/
theorem lines_textOfLines_iff {printed : List Text} :
    lines (textOfLines printed) = printed ↔ ∀ line ∈ printed, '\n' ∉ line := by
  constructor
  · intro h line hline
    rw [← h] at hline
    exact not_mem_of_mem_split (List.mem_of_mem_dropLast hline)
  · intro h
    induction printed with
    | nil => rfl
    | cons line printed ih =>
      obtain ⟨hline, hprinted⟩ := List.forall_mem_cons.1 h
      have htext : textOfLines (line :: printed) = line ++ '\n' :: textOfLines printed := by
        simp [textOfLines]
      rw [lines, htext, split_append_sep hline, List.dropLast_cons_of_ne_nil (split_ne_nil '\n' _)]
      exact congrArg (line :: ·) (ih hprinted)

end Text

namespace Path

theorem mem_collapse_iff {c : Char} (hc : c ≠ '/') {t : Text} : c ∈ collapse t ↔ c ∈ t := by
  induction t using collapse.induct with
  | case1 => rfl
  | case2 rest ih =>
    rw [collapse, ih]
    simp [hc]
  | case3 d rest hsingle ih =>
    have hstep : collapse (d :: rest) = d :: collapse rest := by simp only [collapse]
    rw [hstep, List.mem_cons, List.mem_cons, ih]

theorem mem_compose_iff {c : Char} (hc : c ≠ '/') {mount raw : Text} : c ∈ compose mount raw ↔ c ∈ mount ∨ c ∈ raw := by
  rw [compose, mem_collapse_iff hc]
  simp [hc]

end Path

/-! ## Listed lines -/

namespace RouteSummary

/-- what a line under a mount path is listed as -/
def Listed (settings : RoutingSettings) (mount line : Text) (summary : RouteSummary) : Prop :=
  ∃ spec, RouteLine.read line settings.delimiter = .ok spec ∧
    summary = { method := spec.method, path := Path.compose mount spec.path, target := spec.target settings.delimiter,
                middleware := spec.middleware }

theorem break_mem_display {summary : RouteSummary} (h : '\n' ∈ summary.display) :
    '\n' ∈ summary.path ∨ '\n' ∈ summary.target ∨ ∃ name ∈ summary.middleware, '\n' ∈ name := by
  have hverb : '\n' ∉ summary.method.verb := by
    cases summary.method <;> decide
  have hnote : '\n' ∈ middlewareNote summary.middleware → ∃ name ∈ summary.middleware, '\n' ∈ name := by
    intro hmem
    cases hnames : summary.middleware with
    | nil =>
      rw [hnames] at hmem
      exact absurd hmem List.not_mem_nil
    | cons name names =>
      rw [hnames] at hmem
      simp only [middlewareNote, List.mem_append] at hmem
      rcases hmem with (hopen | hname) | hclose
      · exact absurd hopen (by decide)
      · exact (Text.mem_join hname).resolve_left (by decide)
      · exact absurd hclose (by decide)
  simp only [display, Text.padRight, List.mem_append, List.mem_replicate, List.mem_singleton] at h
  have hspace : '\n' ≠ ' ' := by decide
  simp only [hverb, hspace, and_false, false_or, or_false] at h
  rcases h with (hpath | htarget) | hin
  · exact Or.inl hpath
  · exact Or.inr (Or.inl htarget)
  · exact Or.inr (Or.inr (hnote hin))

/-- A display holds a line break exactly if the mount path does. -/
theorem Listed.break_mem_display_iff {settings : RoutingSettings} {mount line : Text} {summary : RouteSummary}
    (h : Listed settings mount line summary) : '\n' ∈ summary.display ↔ '\n' ∈ mount := by
  obtain ⟨spec, hread, rfl⟩ := h
  obtain ⟨word, hwords, -⟩ := RouteLine.read_eq_ok hread
  have hblank : Text.isBlank '\n' = true := by decide
  have hword : ∀ t ∈ line.words, '\n' ∉ t := by
    intro t ht hmem
    have hunblank := (Text.mem_words ht).2 _ hmem
    rw [hblank] at hunblank
    cases hunblank
  rw [hwords] at hword
  have hcompose : '\n' ∈ Path.compose mount spec.path ↔ '\n' ∈ mount := by
    rw [Path.mem_compose_iff (by decide)]
    exact or_iff_left (hword spec.path (by simp))
  constructor
  · intro hmem
    rcases break_mem_display hmem with hpath | htarget | ⟨name, hname, hin⟩
    · exact hcompose.1 hpath
    · exact absurd htarget (hword _ (by simp))
    · exact absurd hin (hword name (by simp [hname]))
  · intro hmem
    have hpath := hcompose.2 hmem
    simp [display, Text.padRight, hpath]

end RouteSummary

/-! ## The listing of a configuration -/

variable {ι ρ ω : Type}

theorem Router.listed_of_blueprint {router : Router ι ρ ω} {mount line : Text} {blueprint : Blueprint ι ω}
    (h : router.blueprint mount line = .ok blueprint) :
    RouteSummary.Listed router.settings mount line blueprint.summary := by
  obtain ⟨spec, pattern, loaded, action, middleware, hread, hparse, -, -, hmiddleware, rfl⟩ := blueprint_eq_ok h
  have hpath := (Pattern.parse_sound hparse).1
  have hnames := ModuleSource.names_of_middlewareList hmiddleware
  exact ⟨spec, hread, by simp only [Blueprint.summary, hpath, hnames]⟩

/-- the web lines are listed as they are, and then the API lines under their mount path -/
def Settings.Lists (settings : Settings) (summaries : List RouteSummary) : Prop :=
  ∃ web api, summaries = web ++ api ∧
    List.Forall₂ (RouteSummary.Listed settings.routing []) settings.routes.web web ∧
    List.Forall₂ (RouteSummary.Listed settings.routing settings.routing.apiMount) settings.routes.api api

/-- No display of the configured lines holds a line break unless there are API lines whose mount path does. -/
theorem Settings.Lists.unbroken_iff {settings : Settings} {summaries : List RouteSummary}
    (h : settings.Lists summaries) :
    (∀ line ∈ summaries.map RouteSummary.display, '\n' ∉ line) ↔
      settings.routes.api = [] ∨ '\n' ∉ settings.routing.apiMount := by
  obtain ⟨web, api, rfl, hweb, hapi⟩ := h
  constructor
  · intro hunbroken
    by_cases hnone : settings.routes.api = []
    · exact Or.inl hnone
    · obtain ⟨line, hline⟩ := List.exists_mem_of_ne_nil _ hnone
      obtain ⟨summary, hsummary, hlisted⟩ := exists_of_mem_left hapi hline
      have hdisplay := hunbroken summary.display (List.mem_map_of_mem (List.mem_append_right web hsummary))
      rw [hlisted.break_mem_display_iff] at hdisplay
      exact Or.inr hdisplay
  · intro hmount line hline
    obtain ⟨summary, hsummary, rfl⟩ := List.mem_map.1 hline
    rcases List.mem_append.1 hsummary with hsummary | hsummary
    · obtain ⟨_, -, hlisted⟩ := exists_of_mem_right hweb hsummary
      rw [hlisted.break_mem_display_iff]
      exact List.not_mem_nil
    · obtain ⟨source, hsource, hlisted⟩ := exists_of_mem_right hapi hsummary
      rw [hlisted.break_mem_display_iff]
      exact hmount.resolve_left (List.ne_nil_of_mem hsource)

theorem App.Configured.lists {order : VisitOrder} {settings : Settings} {manifest : Manifest}
    {web api : List (Blueprint App.Instance UserStore)} (h : App.Configured order settings manifest web api) :
    settings.Lists ((web ++ api).map Blueprint.summary) := by
  have hlisted : ∀ {mount : Text} {lines : List Text} {blueprints : List (Blueprint App.Instance UserStore)},
      (App.boundRouter order settings manifest).Blueprints mount lines blueprints →
        List.Forall₂ (RouteSummary.Listed settings.routing mount) lines (blueprints.map Blueprint.summary) := by
    intro mount lines blueprints hblueprints
    rw [List.forall₂_map_right_iff]
    exact hblueprints.imp fun line blueprint hline => Router.listed_of_blueprint hline
  exact ⟨_, _, List.map_append, hlisted h.webLines, hlisted h.apiLines⟩

/-! ## Starting the program -/

namespace Cli

/-- The settings file holds these settings, which are valid; the manifest can be read; and the configured lines go
through. -/
def Startable (files : Files) (config : Text) (settings : Settings) : Prop :=
  Settings.load config (files config) = .ok settings ∧
    ∃ manifest, Manifest.load settings.routing.manifestFile (files settings.routing.manifestFile) = .ok manifest ∧
      ∃ web api, App.Configured .newestFirst settings manifest web api

variable {files : Files} {config : Text}

theorem Startable.exists_start {settings : Settings} (h : Startable files config settings) :
    ∃ router site, start files config = (.ok router, site) ∧ settings.Lists router.registered := by
  obtain ⟨hload, manifest, hmanifest, web, api, hconfigured⟩ := h
  obtain ⟨router, site, hbuild, hregistered⟩ := hconfigured.exists_build .empty
  refine ⟨router, { site with journal := opening config settings :: site.journal }, ?_, hregistered ▸ hconfigured.lists⟩
  simp only [start, wire, hload, hmanifest, hbuild]

theorem exists_configured_of_wire {settings : Settings} {router : App.AppRouter}
    (h : (wire files settings).1 = .ok router) :
    ∃ manifest, Manifest.load settings.routing.manifestFile (files settings.routing.manifestFile) = .ok manifest ∧
      ∃ web api, App.Configured .newestFirst settings manifest web api := by
  unfold wire at h
  simp only at h
  split at h
  · cases h
  · rename_i manifest hmanifest
    split at h
    · cases h
    · rename_i built site hbuild
      exact ⟨manifest, hmanifest, App.exists_configured hbuild⟩

theorem exists_startable {router : App.AppRouter} {site : App.AppSite} (h : start files config = (.ok router, site)) :
    ∃ settings, Startable files config settings := by
  unfold start at h
  split at h
  · cases h
  · rename_i settings hload
    exact ⟨settings, hload, exists_configured_of_wire (Prod.mk.inj h).1⟩

theorem failureStatus_ne_zero (e : StartError) : failureStatus e ≠ 0 := by
  unfold failureStatus
  split <;> decide

/-- The program can be started and lists the display of every configured line, in order. These are the lines of the
listing unless there are API lines whose mount path holds a line break. -/
def PrintsRoutes (files : Files) (config : Text) (outcome : Outcome) : Prop :=
  ∃ settings summaries log, Startable files config settings ∧ settings.Lists summaries ∧
    outcome = .exited 0 log (textOfLines (summaries.map RouteSummary.display)) none ∧
    (Text.lines (textOfLines (summaries.map RouteSummary.display)) = summaries.map RouteSummary.display ↔
      settings.routes.api = [] ∨ '\n' ∉ settings.routing.apiMount)

/-- the program cannot be started, fails and lists nothing -/
def FailsToStart (files : Files) (config : Text) (outcome : Outcome) : Prop :=
  (∀ settings, ¬Startable files config settings) ∧
    ∃ status log e, status ≠ 0 ∧ outcome = .exited status log [] (some e)

/-- **The route listing, all or nothing.** Asked for the routes, the program lists every one of them if it can be
started, and none otherwise. -/
theorem routes_all_or_nothing (files : Files) {arguments : List Text} {config : Text}
    (asked : Invocation.ofArguments arguments = .start config .routes) :
    PrintsRoutes files config (run files arguments) ∨ FailsToStart files config (run files arguments) := by
  by_cases hstartable : ∃ settings, Startable files config settings
  · left
    obtain ⟨settings, hsettings⟩ := hstartable
    obtain ⟨router, site, hstart, hlists⟩ := hsettings.exists_start
    refine ⟨settings, router.registered, site.journal, hsettings, hlists, ?_,
      Text.lines_textOfLines_iff.trans hlists.unbroken_iff⟩
    simp only [run, asked, hstart, routeListing]
  · right
    refine ⟨fun settings h => hstartable ⟨settings, h⟩, ?_⟩
    cases hstart : start files config with
    | mk result site =>
      cases result with
      | error e => exact ⟨failureStatus e, site.journal, e, failureStatus_ne_zero e, by simp only [run, asked, hstart]⟩
      | ok router => exact absurd (exists_startable hstart) hstartable

/-- what a run that ended without an error printed besides its log, with its status -/
def printed? : Outcome → Option (Nat × Text)
  | .exited status _ output none => some (status, output)
  | _ => none

theorem exists_of_printed? {outcome : Outcome} {status : Nat} {output : Text}
    (h : printed? outcome = some (status, output)) : ∃ log, outcome = .exited status log output none := by
  unfold printed? at h
  split at h
  · cases h
    exact ⟨_, rfl⟩
  · cases h

def sampleFiles (settings : Text) : Files := fun path =>
  if path = Invocation.defaultConfig then .ok settings else .ok []

def usersConfig : Text :=
  "[routes]\nweb = [\"get / HomeController@index\"]\napi = [\"get /users UserController@getUsers\"]"

/-- The theorem on two lines, which are listed. -/
theorem routes_all_or_nothing_users :
    Invocation.ofArguments ["routes"] = .start Invocation.defaultConfig .routes ∧
      PrintsRoutes (sampleFiles usersConfig) Invocation.defaultConfig (run (sampleFiles usersConfig) ["routes"]) := by
  have asked : Invocation.ofArguments ["routes"] = .start Invocation.defaultConfig .routes := by decide
  have hprinted : (printed? (run (sampleFiles usersConfig) ["routes"])).isSome = true := by decide +kernel
  refine ⟨asked, (routes_all_or_nothing _ asked).resolve_right ?_⟩
  rintro ⟨-, status, log, e, -, hfails⟩
  rw [hfails] at hprinted
  cases hprinted

def brokenConfig : Text :=
  "[routing]\napi_prefix = \"/a\\nb\"\n[routes]\napi = [\"get /users UserController@getUsers\"]"

/-- One line is configured, and the listing has two. -/
theorem routes_broken_line :
    ∃ settings log listing, Settings.load Invocation.defaultConfig (sampleFiles brokenConfig Invocation.defaultConfig) =
        .ok settings ∧
      settings.routes.web = [] ∧ settings.routes.api.length = 1 ∧
      run (sampleFiles brokenConfig) ["routes"] = .exited 0 log listing none ∧ (Text.lines listing).length = 2 := by
  have hload : (Settings.load Invocation.defaultConfig (sampleFiles brokenConfig Invocation.defaultConfig)).toOption.any
      (fun settings => settings.routes.web = [] ∧ settings.routes.api.length = 1) = true := by
    decide +kernel
  have hprinted : (printed? (run (sampleFiles brokenConfig) ["routes"])).any
      (fun found => found.1 = 0 ∧ (Text.lines found.2).length = 2) = true := by
    decide +kernel
  obtain ⟨⟨status, listing⟩, hfound, htold⟩ := (Option.any_eq_true _ _).1 hprinted
  obtain ⟨rfl, hlines⟩ := of_decide_eq_true htold
  obtain ⟨log, hrun⟩ := exists_of_printed? hfound
  cases hfound : Settings.load Invocation.defaultConfig (sampleFiles brokenConfig Invocation.defaultConfig) with
  | error e =>
    rw [hfound] at hload
    cases hload
  | ok settings =>
    rw [hfound] at hload
    obtain ⟨hweb, hapi⟩ := of_decide_eq_true hload
    exact ⟨settings, log, listing, rfl, hweb, hapi, hrun, hlines⟩

end Cli

end Switchboard
