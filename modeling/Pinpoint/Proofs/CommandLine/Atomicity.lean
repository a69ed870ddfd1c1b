import Pinpoint.CommandLine.Folder

/-! Runs that fail leave nothing behind. A run is told here step by step, as it reads files, prints
lines and writes a file. At whatever step it fails, no line of a result was printed before and no
file was changed. The steps end in the report and the folder that the whole run ends in. -/

namespace Pinpoint.CommandLine

variable {σ α β : Type}

/-- Files of any kind, read and written by their paths. Where a write is refused, the files stay as
they are. -/
structure Store (σ : Type) where
  read? : σ → String → Option String
  write? : σ → String → String → Option σ

def Folder.store : Store Folder := ⟨Folder.read?, Folder.write?⟩

structure World (σ : Type) where
  files : σ
  output : List String
  notes : List String

namespace World

def print (w : World σ) (lines : List String) : World σ := { w with output := w.output ++ lines }

def note (w : World σ) (lines : List String) : World σ := { w with notes := w.notes ++ lines }

end World

/-- Steps of a run. They go on with a value or stop the run, and what they did before stays done. -/
abbrev Steps (σ : Type) := ExceptT Failure (StateM (World σ))

namespace Steps

def ask (store : Store σ) (f : (String → Option String) → Except Failure α) :
    Steps σ α := do
  let w ← get
  ofExcept (f (store.read? w.files))

def print (line : String) : Steps σ Unit :=
  modify fun w => w.print [line]

def note (line : String) : Steps σ Unit :=
  modify fun w => w.note [line]

def write (store : Store σ) (path text : String) : Steps σ Unit := do
  let w ← get
  match store.write? w.files path text with
  | some files => set { w with files := files }
  | none => throw .output

def result (style : Style) (v : Json.Value) (lines : List String) : Steps σ Unit :=
  if style.json then print v.pretty else forM lines print

def events (style : Style) (events : List Event) : Steps σ Unit :=
  result style (.array (events.map Wire.ofEvent)) (events.flatMap eventLines)

end Steps

open Steps

def Task.steps (services : Services) (store : Store σ) (style : Style) (settings : Settings) :
    Task → Steps σ Unit
  | .locate fixture target chosen => do
    let d ← ask store (loadFixture · fixture)
    let s ← ofExcept (d.target target)
    let chosen := if chosen.isEmpty then settings.previewDialects else chosen
    let finding := d.finding settings s chosen
    result style (Wire.ofFinding finding) (findingLines finding)
  | .snippet locator dialect verb page => do
    let text ← ask store (snippetText · settings locator dialect verb page)
    if text = "" && ! style.json then
      forM (style.warning "empty locator renders no snippet") note
    else result style (Wire.ofSnippet dialect verb text) [text]
  | .dialects => result style Wire.catalogue dialectLines
  | .pick fixture hovers click => do
    let d ← ask store (loadFixture · fixture)
    let found ← ofExcept (Replay.pick settings d hovers click)
    events style found
  | .preview fixture hovers burst => do
    let d ← ask store (loadFixture · fixture)
    let found ← ofExcept (Replay.preview settings d hovers burst)
    events style found
    let success := style.success
      (toString found.length ++ " frame(s) from " ++ toString hovers.length ++ " move(s)")
    forM (if style.json then [] else success) note
  | .scan fixture format output => do
    let d ← ask store (loadFixture · fixture)
    let cases := d.scan settings services.isExternal
    let format := if style.json then .json else format
    let warning := style.warning "no test cases suggested for this page"
    forM (if cases.isEmpty then warning else []) note
    match output with
    | none => print (format.render cases)
    | some path => do
      write store path (format.render cases)
      let success := style.success ("wrote " ++ toString cases.length ++ " case(s) as " ++
        format.name ++ " to " ++ path)
      forM success note

namespace Invocation

def steps (services : Services) (store : Store σ) (i : Invocation) : Steps σ Unit := do
  let settings ← ask store (loadSettings services · i.settingsPath)
  i.task.steps services store i.style settings

def close : Except Failure Unit × World σ → Report × σ
  | (.ok (), w) => (⟨0, w.output, w.notes⟩, w.files)
  | (.error f, w) => (⟨1, w.output, w.notes ++ ["Error: " ++ f.message]⟩, w.files)

def execute (services : Services) (store : Store σ) (files : σ) (i : Invocation) : Report × σ :=
  close ((i.steps services store).run.run ⟨files, [], []⟩)

end Invocation

namespace Steps

def after (m : Steps σ α) (w : World σ) : Except Failure α × World σ := m.run.run w

@[simp] theorem after_bind (m : Steps σ α) (f : α → Steps σ β) (w : World σ) :
    after (m >>= f) w =
      match after m w with
      | (.ok a, next) => after (f a) next
      | (.error e, next) => (.error e, next) := by
  simp only [after, ExceptT.run_bind, StateT.run_bind]
  obtain ⟨r, next⟩ := m.run.run w
  cases r <;> rfl

@[simp] theorem after_ofExcept (r : Except Failure α) (w : World σ) :
    after (ofExcept r) w = (r, w) := by
  cases r <;> rfl

@[simp] theorem after_ask (store : Store σ) (f : (String → Option String) → Except Failure α)
    (w : World σ) : after (ask store f) w = (f (store.read? w.files), w) :=
  after_ofExcept (f (store.read? w.files)) w

@[simp] theorem after_print (line : String) (w : World σ) :
    after (print line) w = (.ok (), w.print [line]) := rfl

@[simp] theorem after_note (line : String) (w : World σ) :
    after (note line) w = (.ok (), w.note [line]) := rfl

@[simp] theorem after_write (store : Store σ) (path text : String) (w : World σ) :
    after (write store path text) w =
      match store.write? w.files path text with
      | some files => (.ok (), { w with files := files })
      | none => (.error .output, w) := by
  have hget : after (get : Steps σ (World σ)) w = (.ok w, w) := rfl
  rw [write, after_bind, hget]
  dsimp only
  cases store.write? w.files path text <;> rfl

/-- Lines that are put somewhere one by one are all there in the end. -/
theorem after_forM {put : String → Steps σ Unit} (all : World σ → List String → World σ)
    (hput : ∀ line w, after (put line) w = (.ok (), all w [line])) (hnil : ∀ w, all w [] = w)
    (hcons : ∀ line rest w, all (all w [line]) rest = all w (line :: rest))
    (lines : List String) (w : World σ) : after (forM lines put) w = (.ok (), all w lines) := by
  induction lines generalizing w with
  | nil =>
    rw [hnil]
    rfl
  | cons line rest ih =>
    rw [List.forM_cons, after_bind, hput]
    dsimp only
    rw [ih, hcons]

@[simp] theorem after_prints (lines : List String) (w : World σ) :
    after (forM lines print) w = (.ok (), w.print lines) :=
  after_forM World.print after_print (fun w => by simp [World.print])
    (fun line rest w => by simp [World.print]) lines w

@[simp] theorem after_notes (lines : List String) (w : World σ) :
    after (forM lines note) w = (.ok (), w.note lines) :=
  after_forM World.note after_note (fun w => by simp [World.note])
    (fun line rest w => by simp [World.note]) lines w

@[simp] theorem after_result (style : Style) (v : Json.Value) (lines : List String) (w : World σ) :
    after (result style v lines) w
      = (.ok (), w.print (Report.result style v lines).output) := by
  rw [result, Report.result]
  split
  · exact after_print _ w
  · exact after_prints lines w

/-! What steps may leave behind -/

structure Untouched (before now : World σ) : Prop where
  output : now.output = before.output
  files : now.files = before.files

theorem Untouched.trans {a b c : World σ} (h : Untouched a b) (k : Untouched b c) :
    Untouched a c :=
  ⟨k.output.trans h.output, k.files.trans h.files⟩

/-- The steps look around and print notes at most. -/
def Quiet (m : Steps σ α) : Prop := ∀ w, Untouched w (after m w).2

/-- The steps never stop the run. -/
def Sure (m : Steps σ α) : Prop := ∀ w e next, after m w ≠ (.error e, next)

/-- Where the steps stop the run, they have left no trace. -/
def Clean (m : Steps σ α) : Prop :=
  ∀ w e next, after m w = (.error e, next) → Untouched w next

variable {m : Steps σ α} {f : α → Steps σ β}

theorem Quiet.clean (h : Quiet m) : Clean m := by
  intro w e next hm
  have huntouched := h w
  rwa [hm] at huntouched

theorem Sure.clean (h : Sure m) : Clean m := fun w e next hm => absurd hm (h w e next)

/-- Steps that fail did so at first, or behind a first part that went well. -/
theorem after_bind_error {w next : World σ} {e : Failure}
    (hrun : after (m >>= f) w = (.error e, next)) :
    after m w = (.error e, next) ∨
      ∃ a middle, after m w = (.ok a, middle) ∧ after (f a) middle = (.error e, next) := by
  rw [after_bind] at hrun
  generalize after m w = reached at hrun ⊢
  obtain ⟨r, middle⟩ := reached
  cases r with
  | error e' =>
    cases hrun
    exact .inl rfl
  | ok a => exact .inr ⟨a, middle, rfl, hrun⟩

/-- Steps that look around may come before any others. -/
theorem Quiet.bind_clean (hm : Quiet m) (hf : ∀ a, Clean (f a)) : Clean (m >>= f) := by
  intro w e next hrun
  rcases after_bind_error hrun with hfirst | ⟨a, middle, hfirst, hrest⟩
  · exact hm.clean w e next hfirst
  · have huntouched := hm w
    rw [hfirst] at huntouched
    exact huntouched.trans (hf a middle e next hrest)

/-- Behind steps that may leave a trace no step may fail. -/
theorem Clean.bind_sure (hm : Clean m) (hf : ∀ a, Sure (f a)) : Clean (m >>= f) := by
  intro w e next hrun
  rcases after_bind_error hrun with hfirst | ⟨a, middle, _, hrest⟩
  · exact hm w e next hfirst
  · exact absurd hrest (hf a middle e next)

theorem sure_of_after {a : α} {there : World σ → World σ}
    (h : ∀ w, after m w = (.ok a, there w)) : Sure m := by
  intro w e next hw
  rw [h] at hw
  cases hw

theorem quiet_ofExcept (r : Except Failure α) : Quiet (ofExcept r : Steps σ α) := by
  intro w
  rw [after_ofExcept]
  exact ⟨rfl, rfl⟩

theorem quiet_ask (store : Store σ) (f : (String → Option String) → Except Failure α) :
    Quiet (ask store f) := by
  intro w
  rw [after_ask]
  exact ⟨rfl, rfl⟩

theorem quiet_notes (lines : List String) : Quiet (forM lines note : Steps σ Unit) := by
  intro w
  rw [after_notes]
  exact ⟨rfl, rfl⟩

theorem sure_notes (lines : List String) : Sure (forM lines note : Steps σ Unit) :=
  sure_of_after (after_notes lines)

theorem sure_print (line : String) : Sure (print line : Steps σ Unit) :=
  sure_of_after (after_print line)

theorem sure_result (style : Style) (v : Json.Value) (lines : List String) :
    Sure (result style v lines : Steps σ Unit) :=
  sure_of_after (after_result style v lines)

/-- A write that fails leaves the files as they are, so it is clean, but not quiet. -/
theorem clean_write (store : Store σ) (path text : String) : Clean (write store path text) := by
  intro w e next hw
  rw [after_write] at hw
  split at hw
  · cases hw
  · cases hw
    exact ⟨rfl, rfl⟩

end Steps

/-- A task reads and looks up before it prints. Where it writes, only notes come before and behind
the write. -/
theorem Task.clean_steps (services : Services) (store : Store σ) (style : Style)
    (settings : Settings) (t : Task) : Clean (t.steps services store style settings) := by
  cases t with
  | locate fixture target chosen =>
    refine (quiet_ask store _).bind_clean fun d => ?_
    refine (quiet_ofExcept _).bind_clean fun s => ?_
    exact (sure_result _ _ _).clean
  | snippet locator dialect verb page =>
    refine (quiet_ask store _).bind_clean fun text => ?_
    split
    · exact (quiet_notes _).clean
    · exact (sure_result _ _ _).clean
  | dialects => exact (sure_result _ _ _).clean
  | pick fixture hovers click =>
    refine (quiet_ask store _).bind_clean fun d => ?_
    refine (quiet_ofExcept _).bind_clean fun found => ?_
    exact (sure_result _ _ _).clean
  | preview fixture hovers burst =>
    refine (quiet_ask store _).bind_clean fun d => ?_
    refine (quiet_ofExcept _).bind_clean fun found => ?_
    exact (sure_result _ _ _).clean.bind_sure fun _ => sure_notes _
  | scan fixture format output =>
    refine (quiet_ask store _).bind_clean fun d => ?_
    refine (quiet_notes _).bind_clean fun _ => ?_
    cases output with
    | none => exact (sure_print _).clean
    | some path => exact (clean_write store path _).bind_sure fun _ => sure_notes _

namespace Invocation

theorem clean_steps (services : Services) (store : Store σ) (i : Invocation) :
    Clean (i.steps services store) :=
  (quiet_ask store _).bind_clean fun settings =>
    i.task.clean_steps services store i.style settings

end Invocation

/-! The steps and the report that is planned for them -/

def conclude (folder : Folder) : Except Failure Outcome → Report × Folder
  | .ok outcome => outcome.settle folder
  | .error f => (.failed [] f, folder)

/-- From a start at which nothing was printed, the steps end in what was planned. -/
def EndsAs (folder : Folder) (m : Steps Folder Unit) (planned : Except Failure Outcome) : Prop :=
  Invocation.close (after m ⟨folder, [], []⟩) = conclude folder planned

namespace EndsAs

variable {folder : Folder}

theorem ofExcept {r : Except Failure α} {f : α → Steps Folder Unit}
    {g : α → Except Failure Outcome} (h : ∀ a, EndsAs folder (f a) (g a)) :
    EndsAs folder (ofExcept r >>= f) (r >>= g) := by
  rw [EndsAs, after_bind, after_ofExcept]
  -- A failure here is reported without notes, and nothing was noted so far.
  cases r with
  | error e => rfl
  | ok a => exact h a

theorem ask {look : (String → Option String) → Except Failure α} {f : α → Steps Folder Unit}
    {g : α → Except Failure Outcome} (h : ∀ a, EndsAs folder (f a) (g a)) :
    EndsAs folder (ask Folder.store look >>= f) (look folder.read? >>= g) := by
  rw [EndsAs, after_bind, after_ask]
  dsimp only [Folder.store]
  cases look folder.read? with
  | error e => rfl
  | ok a => exact h a

theorem result (style : Style) (v : Json.Value) (lines : List String) :
    EndsAs folder (result style v lines) (.ok (.done (.result style v lines))) := by
  rw [EndsAs, after_result]
  rfl

end EndsAs

theorem Task.endsAs_run (services : Services) (style : Style) (settings : Settings) (t : Task)
    (folder : Folder) : EndsAs folder (t.steps services Folder.store style settings)
      (t.run services folder.read? style settings) := by
  cases t with
  | locate fixture target chosen =>
    rw [steps, run]
    refine .ask fun d => ?_
    refine .ofExcept fun s => ?_
    exact .result _ _ _
  | snippet locator dialect verb page =>
    rw [steps, run]
    refine .ask fun text => ?_
    split
    · rw [EndsAs, after_notes]
      rfl
    · exact .result _ _ _
  | dialects => exact .result _ _ _
  | pick fixture hovers click =>
    rw [steps, run]
    refine .ask fun d => ?_
    refine .ofExcept fun found => ?_
    exact .result _ _ _
  | preview fixture hovers burst =>
    rw [steps, run]
    refine .ask fun d => ?_
    refine .ofExcept fun found => ?_
    rw [EndsAs, after_bind, events, after_result]
    dsimp only
    rw [after_notes]
    rfl
  | scan fixture format output =>
    rw [steps, run]
    refine .ask fun d => ?_
    rw [EndsAs, after_bind, after_notes]
    dsimp only [scanOutcome]
    cases output with
    | none =>
      rw [after_print]
      simp only [Invocation.close, World.note, World.print, conclude, Outcome.settle,
        List.nil_append]
    | some path =>
      -- The plan has a report for either answer to the write.
      rw [after_bind, after_write]
      dsimp only [Folder.store, World.note, conclude, Outcome.settle]
      cases folder.write? path _ with
      | none => simp only [Invocation.close, Report.failed, List.nil_append]
      | some files =>
        dsimp only
        rw [after_notes]
        simp only [Invocation.close, World.note, List.nil_append]

theorem Invocation.execute_folder (services : Services) (i : Invocation) (folder : Folder) :
    i.execute services Folder.store folder = (i.run services folder.read?).settle folder := by
  have hsteps : EndsAs folder (i.steps services Folder.store) _ :=
    .ask fun settings => i.task.endsAs_run services i.style settings folder
  rw [EndsAs] at hsteps
  rw [execute, run]
  refine hsteps.trans ?_
  generalize (loadSettings services folder.read? i.settingsPath >>= fun settings =>
    i.task.run services folder.read? i.style settings) = planned
  cases planned <;> rfl

/-- A run in a folder takes the steps of its invocation. -/
theorem runIn_eq_execute {arguments : List String} {i : Invocation}
    (haccepted : Invocation.ofArguments arguments = .ok i) (folder : Folder) :
    runIn folder arguments = i.execute .standard Folder.store folder := by
  rw [Invocation.execute_folder, runIn, haccepted]

/-- An invocation is run step by step, whatever command line it was read from and whatever the
packages do. If the run ends with a status other than zero, it has printed no line of a result, and
the files are as they were. -/
theorem failed_run_leaves_nothing (i : Invocation) :
    (∀ arguments, Invocation.ofArguments arguments = .ok i →
      ∀ folder, runIn folder arguments = i.execute .standard Folder.store folder) ∧
    ∀ (services : Services) {σ : Type} (store : Store σ) (files : σ),
      (i.execute services store files).1.status ≠ 0 →
        (i.execute services store files).1.output = [] ∧
          (i.execute services store files).2 = files := by
  refine ⟨fun _ haccepted => runIn_eq_execute haccepted, fun services _ store files hstatus => ?_⟩
  have hclean := i.clean_steps services store ⟨files, [], []⟩
  have hexecute : i.execute services store files =
      Invocation.close (after (i.steps services store) ⟨files, [], []⟩) := rfl
  rw [hexecute] at hstatus ⊢
  generalize after (i.steps services store) ⟨files, [], []⟩ = reached at hclean hstatus
  obtain ⟨r, w⟩ := reached
  cases r with
  | ok _ => exact absurd rfl hstatus
  | error e =>
    obtain ⟨houtput, hfiles⟩ := hclean e w rfl
    exact ⟨houtput, hfiles⟩

def emptyPage : Folder := ⟨[("page.json", "\x7b\"root\": \x7b\"tag\": \"html\"\x7d\x7d")]⟩

/-- The cases should go to a folder that is not there: the write is refused behind a warning. -/
theorem failed_run_leaves_nothing_emptyPage :
    let arguments := ["scan", "page.json", "-o", "cases/page.md"]
    let i : Invocation :=
      ⟨⟨false, false, false⟩, none, .scan "page.json" .markdown (some "cases/page.md")⟩
    Invocation.ofArguments arguments = .ok i ∧
      runIn emptyPage arguments = i.execute .standard Folder.store emptyPage ∧
      (i.execute .standard Folder.store emptyPage).1.status ≠ 0 ∧
      (i.execute .standard Folder.store emptyPage).1.output = [] ∧
      (i.execute .standard Folder.store emptyPage).2 = emptyPage := by
  intro arguments i
  have haccepted : Invocation.ofArguments arguments = .ok i := rfl
  have hstatus : (i.execute .standard Folder.store emptyPage).1.status ≠ 0 := by decide +kernel
  obtain ⟨hrun, hnothing⟩ := failed_run_leaves_nothing i
  obtain ⟨houtput, hfiles⟩ := hnothing .standard Folder.store emptyPage hstatus
  exact ⟨haccepted, hrun arguments haccepted emptyPage, hstatus, houtput, hfiles⟩

end Pinpoint.CommandLine
