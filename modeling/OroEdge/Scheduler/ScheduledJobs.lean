import OroEdge.Lib.Crontab
import OroEdge.Scheduler.Registry
import Mathlib.Data.List.Nodup

/-!
# What cron runs

`main` without a job to run writes a crontab, and cron runs the commands in it.  Each of them is
`main` again, with the name of a job.  So what cron runs should be the enabled jobs of the
registry, each with its pattern, its definition and the configuration (`cron_runs_enabled`).

The statement goes around once: from the configuration to the registry, from the registry to the
text of the crontab, from the text to the entries as cron reads them, and from the words of an
entry back to `main`, which reads them as its arguments and the configuration again.  An entry
does not carry the path of the configuration, so the second `main` takes the default one, and
the statement is about runs that were given that path.

The proof follows the same order.  The names and titles do not depend on the configuration, so
they are computed once (`titles_definitions`), and with them two facts: names are different
(`Initialized.nodup_names`), and neither names nor titles have characters that would break a
line or a word (`title_facts`).  Then a line is read back by `OroEdge.Lib.Crontab`, the lines of
all jobs by induction on the jobs (`Initialized.read_cronEntries`), and `main` finds the job of
each entry by its name (`main_run`).
-/

namespace OroEdge.Scheduler

open OroEdge.Lib OroEdge.Lib.Cron

/-! ## The registry -/

/-- The jobs have been registered one after the other. -/
theorem exists_jobs_of_foldlM {definitions : List (Option RegisteredJob)} {r registry : JobRegistry}
    (hfold : definitions.foldlM (fun r job => job.map r.registerJob) r = some registry) :
    ∃ jobs : List RegisteredJob, definitions = jobs.map some ∧
      registry = jobs.foldl JobRegistry.registerJob r := by
  induction definitions generalizing r with
  | nil => exact ⟨[], rfl, (Option.some.inj hfold).symm⟩
  | cons definition definitions ih =>
      rw [List.foldlM_cons] at hfold
      cases definition with
      | none => cases hfold
      | some job =>
          obtain ⟨jobs, rfl, hregistry⟩ := ih hfold
          exact ⟨job :: jobs, rfl, hregistry⟩

theorem jobs_foldl (jobs : List RegisteredJob) (r : JobRegistry) :
    (jobs.foldl JobRegistry.registerJob r).jobs = r.jobs ++ jobs := by
  induction jobs generalizing r with
  | nil => exact (List.append_nil _).symm
  | cons job jobs ih =>
      rw [List.foldl_cons, ih, JobRegistry.registerJob, List.append_assoc]
      rfl

/-- The names and the display names, in the order of the registry. -/
def jobTitles : List (String × String) :=
  [("care_reminder_dispatch", "Care Reminder Dispatch"),
    ("overdue_task_checker", "Overdue Task Checker"),
    ("device_health_check", "Device Health Check"),
    ("sensor_data_freshness_check", "Sensor Data Freshness"),
    ("health_signal_evaluator", "Health Signal Evaluator"),
    ("baseline_recalculation", "Baseline Recalculation (STUB)"),
    ("daily_pet_summary_generator", "Daily Pet Summary"),
    ("weekly_pet_summary_generator", "Weekly Pet Summary"),
    ("failed_sync_retry", "Failed Sync Retry (STUB)"),
    ("notification_retry", "Notification Retry (STUB)"), ("data_cleanup", "Data Cleanup (STUB)")]

theorem makeJob_title {casts : FloatCasts} {c : SchedulerConfig} {name display : String}
    {category : JobCategory} {priority : JobPriority} {interval : ℤ} {retries : ℕ} {timeout : ℤ}
    {job : RegisteredJob}
    (hjob : JobRegistry.makeJob casts c name display category priority interval retries timeout =
      some job) : job.name = name ∧ job.displayName = display := by
  obtain ⟨intervalSeconds, -, henabled⟩ := Option.bind_eq_some_iff.mp hjob
  obtain ⟨enabled, -, hreturn⟩ := Option.bind_eq_some_iff.mp henabled
  cases hreturn
  exact ⟨rfl, rfl⟩

/-- The name and the display name of a job. -/
def title (job : RegisteredJob) : String × String := (job.name, job.displayName)

theorem titles_definitions (casts : FloatCasts) (c : SchedulerConfig) :
    List.Forall₂ (fun definition expected => ∀ job, definition = some job → title job = expected)
      (JobRegistry.definitions casts c) jobTitles := by
  have htitle {name display : String} {category : JobCategory} {priority : JobPriority}
      {interval : ℤ} {retries : ℕ} {timeout : ℤ} (job : RegisteredJob)
      (hjob : JobRegistry.makeJob casts c name display category priority interval retries timeout =
        some job) : title job = (name, display) :=
    Prod.ext (makeJob_title hjob).1 (makeJob_title hjob).2
  exact .cons htitle <| .cons htitle <| .cons htitle <| .cons htitle <| .cons htitle <|
    .cons htitle <| .cons htitle <| .cons htitle <| .cons htitle <| .cons htitle <|
    .cons htitle .nil

theorem map_title {jobs : List RegisteredJob} {titles : List (String × String)}
    (htitles : List.Forall₂ (fun definition expected => ∀ job, definition = some job →
      title job = expected) (jobs.map some) titles) : jobs.map title = titles := by
  induction jobs generalizing titles with
  | nil =>
      cases htitles
      rfl
  | cons job jobs ih =>
      cases htitles with
      | cons hhead htail => rw [List.map_cons, hhead job rfl, ih htail]

/-- The registry after `initialize`. -/
structure Initialized (registry : JobRegistry) : Prop where
  titles : registry.jobs.map title = jobTitles
  indexed : registry.Indexed

theorem initialized {casts : FloatCasts} {c : SchedulerConfig} {registry : JobRegistry}
    (hregistry : JobRegistry.initializeJobs casts c = some registry) : Initialized registry := by
  obtain ⟨jobs, hjobs, rfl⟩ := exists_jobs_of_foldlM hregistry
  have hall : (jobs.foldl JobRegistry.registerJob JobRegistry.empty).jobs = jobs :=
    jobs_foldl jobs JobRegistry.empty
  refine ⟨?_, JobRegistry.indexed_foldl jobs (fun _ _ hindex => by cases hindex)
    JobRegistry.indexed_empty⟩
  rw [hall]
  exact map_title (hjobs ▸ titles_definitions casts c)

section

variable {registry : JobRegistry} {job : RegisteredJob}

theorem Initialized.nodup_names (hr : Initialized registry) :
    (registry.jobs.map fun job => job.name).Nodup := by
  have hnames : registry.jobs.map (fun job => job.name) = jobTitles.map Prod.fst := by
    rw [← hr.titles, List.map_map]
    rfl
  rw [hnames]
  decide

theorem Initialized.title_mem (hr : Initialized registry) (hjob : job ∈ registry.jobs) :
    title job ∈ jobTitles := by
  rw [← hr.titles]
  exact List.mem_map_of_mem hjob

/-- A registered job is found by its name. -/
theorem Initialized.find_name (hr : Initialized registry) (hjob : job ∈ registry.jobs) :
    registry.find job.name = some job := by
  rw [hr.indexed]
  cases hfound : registry.jobs.reverse.find? fun other => other.name = job.name with
  | none =>
      have hnone := List.find?_eq_none.mp hfound job (List.mem_reverse.mpr hjob)
      exact absurd (decide_eq_true rfl) hnone
  | some other =>
      have hmem := List.mem_reverse.mp (List.mem_of_find?_eq_some hfound)
      have hfinds := List.find?_some hfound
      have hname : other.name = job.name := of_decide_eq_true hfinds
      exact congrArg some (List.inj_on_of_nodup_map hr.nodup_names hmem hjob hname)

/-! ## The crontab -/

/-- The entry of a job. -/
def entryOf (job : JobDefinition) : Entry :=
  ⟨cronPattern job.intervalSeconds, "root".toList,
    [binaryPath.toList, "--run".toList, job.name.toList]⟩

/-- The name of a job is a word of a crontab, and neither title breaks a line. -/
theorem title_facts : ∀ titles ∈ jobTitles,
    IsWord titles.1.toList ∧ '=' ∉ titles.1.toList ∧ '\n' ∉ titles.1.toList ∧
      '\n' ∉ titles.2.toList := by
  decide

theorem Initialized.plain_entryOf (hr : Initialized registry) (hjob : job ∈ registry.jobs) :
    (entryOf job.toJobDefinition).Plain ∧ '\n' ∉ (entryOf job.toJobDefinition).text := by
  obtain ⟨hword, hequals, hnewline, -⟩ := title_facts _ (hr.title_mem hjob)
  have hroot : IsWord "root".toList := by decide
  have hbinary : IsWord binaryPath.toList := by decide
  have hrun : IsWord "--run".toList := by decide
  refine ⟨⟨?_, ?_⟩, Entry.newline_notMem_text ?_⟩
  · simp only [entryOf, List.forall_mem_cons]
    exact ⟨hroot, hbinary, hrun, hword, List.forall_mem_nil _⟩
  · simp only [entryOf, List.forall_mem_cons]
    exact ⟨by decide, by decide, by decide, hequals, List.forall_mem_nil _⟩
  · simp only [entryOf, List.forall_mem_cons]
    exact ⟨by decide, by decide, by decide, hnewline, List.forall_mem_nil _⟩

theorem render_eq (p : Pattern) : p.render = p.minute.render ++ " " ++ p.hour.render ++ " " ++
    p.dayOfMonth.render ++ " " ++ p.month.render ++ " " ++ p.dayOfWeek.render := rfl

/-- The line of a job is that of its entry. -/
theorem text_entryOf (job : JobDefinition) : (entryOf job).text =
    ((cronPattern job.intervalSeconds).render ++ " root " ++ binaryPath ++ " --run " ++
      job.name).toList := by
  have hspace : " ".toList = [' '] := rfl
  have hroot : " root ".toList = [' ', 'r', 'o', 'o', 't', ' '] := rfl
  have hrun : " --run ".toList = [' ', '-', '-', 'r', 'u', 'n', ' '] := rfl
  simp only [render_eq, String.toList_append, hspace, hroot, hrun]
  simp [entryOf, Entry.text, Entry.words, Pattern.fields, unwords]

theorem newline_notMem_toString (n : ℤ) : '\n' ∉ (toString n).toList := by
  have hdigits (m : ℕ) : '\n' ∉ (toString m).toList := by
    intro hmem
    rw [toList_toString] at hmem
    exact absurd (isDigit_of_mem_toDigits hmem) (by decide)
  cases n with
  | ofNat m => exact hdigits m
  | negSucc m =>
      have htext : (toString (Int.negSucc m)).toList = '-' :: (toString (m + 1)).toList := by
        rw [show toString (Int.negSucc m) = "-" ++ toString (m + 1) from rfl, String.toList_append]
        rfl
      rw [htext]
      exact List.not_mem_cons_of_ne_of_not_mem (by decide) (hdigits (m + 1))

/-- The text after the first character of the comment of an enabled job. -/
def commentOf (job : JobDefinition) : String :=
  " " ++ job.displayName ++ " (Interval: " ++ toString job.intervalSeconds ++ "s, Priority: " ++
    job.priority.toString ++ ")"

theorem toList_cronEntry_enabled {job : JobDefinition} (henabled : job.enabled = true)
    (rest : List Char) : (cronEntry binaryPath job).toList ++ rest =
      ('#' :: (commentOf job).toList) ++ '\n' :: ((entryOf job).text ++
        '\n' :: ([] ++ '\n' :: rest)) := by
  have hopen : "# ".toList = ['#', ' '] := rfl
  have hspace : " ".toList = [' '] := rfl
  have hclose : ")\n".toList = [')', '\n'] := rfl
  have hbracket : ")".toList = [')'] := rfl
  have hend : "\n\n".toList = ['\n', '\n'] := rfl
  rw [cronEntry, if_pos henabled, text_entryOf, commentOf]
  simp only [String.toList_append, hopen, hspace, hclose, hbracket, hend, List.cons_append,
    List.nil_append, List.append_assoc]

/-- What the file says of a job that is not enabled. -/
def disabledComment (job : JobDefinition) : String :=
  " Job '" ++ job.name ++ "' is disabled in configuration"

theorem toList_cronEntry_disabled {job : JobDefinition} (hdisabled : ¬job.enabled = true)
    (rest : List Char) : (cronEntry binaryPath job).toList ++ rest =
      ('#' :: (disabledComment job).toList) ++ '\n' :: rest := by
  have hopen : "# Job '".toList = '#' :: " Job '".toList := rfl
  have hclose : "' is disabled in configuration\n".toList =
      "' is disabled in configuration".toList ++ ['\n'] := by decide
  rw [cronEntry, if_neg hdisabled, disabledComment]
  simp only [String.toList_append, hopen, hclose, List.cons_append, List.nil_append,
    List.append_assoc]

/-- The lines of one job have its entry, if it is enabled. -/
theorem Initialized.read_cronEntry (hr : Initialized registry) (hjob : job ∈ registry.jobs)
    (rest : List Char) : read ((cronEntry binaryPath job.toJobDefinition).toList ++ rest) =
      (if job.enabled then [entryOf job.toJobDefinition] else []) ++ read rest := by
  obtain ⟨hplain, hline⟩ := hr.plain_entryOf hjob
  obtain ⟨-, -, hname, hdisplay⟩ := title_facts _ (hr.title_mem hjob)
  by_cases henabled : job.enabled = true
  · have hcomment : '\n' ∉ (commentOf job.toJobDefinition).toList := by
      have hpriority : '\n' ∉ job.priority.toString.toList := by
        cases job.priority <;> decide
      simp only [commentOf, String.toList_append, List.mem_append, not_or]
      exact ⟨⟨⟨⟨⟨⟨by decide, hdisplay⟩, by decide⟩, newline_notMem_toString _⟩, by decide⟩,
        hpriority⟩, by decide⟩
    rw [if_pos henabled, toList_cronEntry_enabled henabled, read_append, read_comment hcomment,
      read_append, read_line hline, readLine_text hplain, read_append]
    rfl
  · have hcomment : '\n' ∉ (disabledComment job.toJobDefinition).toList := by
      simp only [disabledComment, String.toList_append, List.mem_append, not_or]
      exact ⟨⟨by decide, hname⟩, by decide⟩
    rw [if_neg henabled, toList_cronEntry_disabled henabled, read_append, read_comment hcomment]

theorem toList_foldl_append (texts : List String) (text : String) :
    (texts.foldl (· ++ ·) text).toList = text.toList ++ texts.flatMap String.toList := by
  induction texts generalizing text with
  | nil => exact (List.append_nil _).symm
  | cons next texts ih =>
      rw [List.foldl_cons, ih, String.toList_append, List.flatMap_cons, List.append_assoc]

theorem toList_join (texts : List String) :
    (String.join texts).toList = texts.flatMap String.toList :=
  toList_foldl_append texts ""

/-- The lines of some jobs. -/
theorem Initialized.read_cronEntries (hr : Initialized registry) {jobs : List RegisteredJob}
    (hjobs : jobs ⊆ registry.jobs) :
    read (jobs.flatMap fun job => (cronEntry binaryPath job.toJobDefinition).toList) =
      (jobs.filter (·.enabled)).map fun job => entryOf job.toJobDefinition := by
  induction jobs with
  | nil => rfl
  | cons job jobs ih =>
      obtain ⟨hjob, hrest⟩ := List.cons_subset.mp hjobs
      rw [List.flatMap_cons, hr.read_cronEntry hjob, ih hrest, List.filter_cons]
      split <;> rfl

/-- The entries of the whole crontab. -/
theorem Initialized.read_crontab (hr : Initialized registry) {isOpen : Bool} {text : String}
    (htext : generateCronConfig (registry.jobs.map RegisteredJob.toJobDefinition) isOpen
      binaryPath = some text) : read text.toList =
      (registry.jobs.filter (·.enabled)).map fun job => entryOf job.toJobDefinition := by
  unfold generateCronConfig at htext
  split at htext
  · cases htext
    have hheader : ∃ lines : List Char, cronHeader.toList = lines ++ ['\n'] ∧ read lines = [] :=
      ⟨cronHeader.toList.dropLast, by decide +kernel, by decide +kernel⟩
    obtain ⟨lines, hlines, hnone⟩ := hheader
    rw [String.toList_append, toList_join, hlines, List.append_assoc, List.singleton_append,
      read_append, hnone, List.nil_append, List.map_map, List.flatMap_map]
    exact hr.read_cronEntries (List.Subset.refl _)
  · cases htext

end

/-! ## What cron runs -/

/-- The arguments of the program in the command of an entry. -/
def argsOf (entry : Entry) : List String := entry.command.tail.map String.ofList

theorem parseArgs_run (name : String) : parseArgs defaultOptions ["--run", name] =
    some { defaultOptions with mode := .runJob, runJobName := name } := by
  simp [parseArgs]

theorem argsOf_entryOf (job : JobDefinition) : argsOf (entryOf job) = ["--run", job.name] := by
  simp [argsOf, entryOf]

/-- `main` with the name of a registered job runs it. -/
theorem main_run {casts : FloatCasts} {files : String → Option Json} {isOpen : Bool} {config : Json}
    {connection : String} {registry : JobRegistry} {job : RegisteredJob}
    (hfile : files defaultConfigPath = some config)
    (hconnection : (SchedulerConfig.load config).dbConnectionString = some connection)
    (hregistry : JobRegistry.initializeJobs casts (.load config) = some registry)
    (hjob : job ∈ registry.jobs) :
    main casts files isOpen ["--run", job.name] = .executes job config := by
  have hpath : defaultOptions.configPath = defaultConfigPath := rfl
  simp only [main, parseArgs_run, hpath, hfile, hconnection, hregistry, runMode,
    (initialized hregistry).find_name hjob]
  rfl

/-- Only the mode for the crontab writes one. -/
theorem crontab_of_runMode {o : Options} {config : Json} {registry : JobRegistry} {isOpen : Bool}
    {text : String} (hrun : runMode o config registry isOpen = .writes (some text)) :
    generateCronConfig (registry.jobs.map RegisteredJob.toJobDefinition) isOpen binaryPath =
      some text := by
  unfold runMode at hrun
  split at hrun
  · split at hrun
    · cases hrun
    · split at hrun
      · cases hrun
      · split at hrun <;> cases hrun
  · exact Start.writes.inj hrun

/-- **Cron runs the enabled jobs.**  When the crontab has been written for the default
configuration, the commands that cron reads from it are runs of the enabled jobs of the registry,
in its order, each with the pattern of its interval and that configuration, and there are no
others. -/
theorem cron_runs_enabled (casts : FloatCasts) (files : String → Option Json) (isOpen : Bool)
    (args : List String) (o : Options) (text : String)
    (hargs : parseArgs defaultOptions args = some o) (hpath : o.configPath = defaultConfigPath)
    (hmain : main casts files isOpen args = .writes (some text)) :
    ∃ config registry, files defaultConfigPath = some config ∧
      JobRegistry.initializeJobs casts (.load config) = some registry ∧
      (read text.toList).map (fun entry => (entry.pattern, main casts files isOpen (argsOf entry))) =
        (registry.jobs.filter (·.enabled)).map fun job =>
          (cronPattern job.intervalSeconds, .executes job config) := by
  simp only [main, hargs, hpath] at hmain
  cases hfile : files defaultConfigPath with
  | none =>
      rw [hfile] at hmain
      cases hmain
  | some config =>
      rw [hfile] at hmain
      dsimp only at hmain
      split at hmain
      · rename_i connection registry hconnection hregistry
        refine ⟨config, registry, rfl, hregistry, ?_⟩
        rw [(initialized hregistry).read_crontab (crontab_of_runMode hmain), List.map_map]
        refine List.map_congr_left fun job hjob => ?_
        rw [Function.comp_apply, argsOf_entryOf, main_run hfile hconnection hregistry
          (List.mem_of_mem_filter hjob)]
        rfl
      · cases hmain

/-- Without any configuration for the service, all jobs are enabled. -/
theorem cron_runs_enabled_empty :
    ∃ config registry, (some (Json.obj []) : Option Json) = some config ∧
      JobRegistry.initializeJobs .saturating (.load config) = some registry ∧
      (read (String.toList (cronHeader ++ String.join ((JobRegistry.initializeJobs
          .saturating (.load (.obj []))).elim [] fun registry => registry.jobs.map fun job =>
            cronEntry binaryPath job.toJobDefinition)))).map (fun entry =>
          (entry.pattern, main .saturating (fun _ => some (.obj [])) true (argsOf entry))) =
        (registry.jobs.filter (·.enabled)).map fun job =>
          (cronPattern job.intervalSeconds, .executes job config) :=
  cron_runs_enabled .saturating (fun _ => some (.obj [])) true ["--setup-cron"] defaultOptions _ rfl
    rfl rfl

end OroEdge.Scheduler
