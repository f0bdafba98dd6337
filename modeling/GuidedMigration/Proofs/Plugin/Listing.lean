/-
This file follows the plugins that the guide to integration lists to those that are integrated when
no plugin is asked for by name. Each listed plugin is looked up again by the short name that its
heading gives it, and what is found is the first plugin with that name. So none is unknown, and the
list comes back exactly if no two plugins in it share a short name; where two do, the first one
stands in for the other, which is not integrated at all.
-/
import GuidedMigration.Proofs.Plugin.Integrated
import GuidedMigration.Proofs.Tree.Reading

namespace GuidedMigration.Plugin

open Text GuidedMigration.Tree

/-! ### What is listed -/

/-- Whether a plugin has the short name that goes with the name it is shown by. -/
def IsNamedBySlug (plugin : PluginMetadata) : Prop := plugin.name = slug plugin.displayName

variable {tree : Tree} {guides : Path} {row : Text} {rows : List Text}
  {plugin after : PluginMetadata} {current : Option PluginMetadata} {plugins : List PluginMetadata}

theorem eq_of_readLine (read : readLine tree guides row plugin = .ok after) :
    after.name = plugin.name ∧ after.displayName = plugin.displayName := by
  rw [readLine] at read
  split at read
  · split at read
    · cases read
      exact ⟨rfl, rfl⟩
    · obtain ⟨there, -, read⟩ := exists_of_bind_ok read
      split at read
      · split at read
        · cases read
          exact ⟨rfl, rfl⟩
        · cases read
          exact ⟨rfl, rfl⟩
      · cases read
        exact ⟨rfl, rfl⟩
  · cases read
    exact ⟨rfl, rfl⟩

/-- A line below the heading of a plugin does not rename it. -/
theorem IsNamedBySlug.readLine (named : IsNamedBySlug plugin)
    (read : readLine tree guides row plugin = .ok after) : IsNamedBySlug after := by
  obtain ⟨name, shown⟩ := eq_of_readLine read
  rw [IsNamedBySlug, name, shown]
  exact named

theorem eq_of_mem_kept (member : after ∈ current.toList.flatMap kept) : current = some after := by
  obtain ⟨plugin, held, member⟩ := List.mem_flatMap.mp member
  rw [kept] at member
  split at member
  · rw [List.mem_singleton.mp member]
    exact Option.mem_toList.mp held
  · cases member

/-- Whatever is found among lines is named by the heading above it. -/
theorem isNamedBySlug_of_discoverFrom (named : ∀ plugin ∈ current, IsNamedBySlug plugin)
    (found : discoverFrom tree guides current rows = .ok plugins) :
    ∀ plugin ∈ plugins, IsNamedBySlug plugin := by
  have last {current : Option PluginMetadata} (named : ∀ plugin ∈ current, IsNamedBySlug plugin)
      (plugin : PluginMetadata) (member : plugin ∈ current.toList.flatMap kept) :
      IsNamedBySlug plugin := named plugin (eq_of_mem_kept member)
  induction rows generalizing current plugins with
  | nil =>
    cases found
    exact last named
  | cons row rows inductionHypothesis =>
    unfold discoverFrom at found
    split at found
    · rename_i name headed
      obtain ⟨later, further, ended⟩ := exists_of_bind_ok found
      rw [← Except.ok.inj ended]
      intro plugin member
      rcases List.mem_append.mp member with above | below
      · exact last named plugin above
      · refine inductionHypothesis (fun plugin opened => ?_) further plugin below
        rw [← Option.some.inj opened]
        rfl
    · cases current with
      | none => exact inductionHypothesis (fun plugin none' => by cases none') found
      | some plugin =>
        obtain ⟨after, read, further⟩ := exists_of_bind_ok found
        refine inductionHypothesis (fun other opened => ?_) further
        rw [← Option.some.inj opened]
        exact (named plugin rfl).readLine read

theorem isNamedBySlug_of_discover {text : Text} (found : discover tree guides text = .ok plugins) :
    ∀ plugin ∈ plugins, IsNamedBySlug plugin :=
  isNamedBySlug_of_discoverFrom (fun plugin none' => by cases none') found

/-! ### What is found again -/

/-- The plugin that is found by the name of another one: the first with that name. -/
def standIn (plugins : List PluginMetadata) (plugin : PluginMetadata) : PluginMetadata :=
  (plugins.find? (·.name = plugin.name)).getD plugin

theorem lookUp?_listed (listed : plugin ∈ plugins) :
    lookUp? [plugins] plugin.name = some (standIn plugins plugin) := by
  have single : lookUp? [plugins] plugin.name = plugins.find? (·.name = plugin.name) := by
    rw [lookUp?, List.findSome?_cons]
    cases plugins.find? (·.name = plugin.name) <;> rfl
  rw [single, standIn]
  cases found : plugins.find? (·.name = plugin.name) with
  | some first => rfl
  | none => simpa using List.find?_eq_none.mp found plugin listed

/-- What stands in for a listed plugin is listed and has its name. -/
theorem standIn_listed (listed : plugin ∈ plugins) :
    standIn plugins plugin ∈ plugins ∧ (standIn plugins plugin).name = plugin.name := by
  have found := lookUp?_listed listed
  rw [lookUp?, List.findSome?_cons] at found
  split at found
  · rename_i first first'
    rw [← Option.some.inj found]
    exact ⟨List.mem_of_find?_eq_some first', by simpa using List.find?_some first'⟩
  · cases found

theorem standIn_congr {left right : PluginMetadata} (member : left ∈ plugins)
    (member' : right ∈ plugins) (same : left.name = right.name) :
    standIn plugins left = standIn plugins right := by
  have found := lookUp?_listed member
  rw [same, lookUp?_listed member'] at found
  exact (Option.some.inj found).symm

/-- Whether plugins are told apart by the short names that go with the names they are shown by. -/
def AreToldApart (plugins : List PluginMetadata) : Prop :=
  ∀ plugin ∈ plugins, ∀ other ∈ plugins,
    slug plugin.displayName = slug other.displayName → plugin = other

/-- Plugins stand for themselves exactly if they are told apart. -/
theorem map_standIn_eq_iff (named : ∀ plugin ∈ plugins, IsNamedBySlug plugin) :
    plugins.map (standIn plugins) = plugins ↔ AreToldApart plugins := by
  have each : plugins.map (standIn plugins) = plugins ↔
      ∀ plugin ∈ plugins, standIn plugins plugin = plugin := by
    rw [← List.map_inj_left, List.map_id']
  rw [each]
  constructor
  · intro themselves plugin member other member' same
    rw [← named plugin member, ← named other member'] at same
    rw [← themselves plugin member, standIn_congr member member' same, themselves other member']
  · intro apart plugin member
    obtain ⟨listed, name⟩ := standIn_listed member
    refine apart _ listed plugin member ?_
    rw [← named _ listed, name, named plugin member]

/-! ### What is integrated -/

variable {plan : PluginPlan} {session : Session} {text : Text}

/-- The guide to integration of a session. -/
def integrationPath (session : Session) : Path := session.guides.child integrationGuide

theorem listed_of_read (read : session.tree.read (integrationPath session) = .ok text) :
    listed session = (discover session.tree session.guides text, session) := by
  have stands : session.tree.standing (integrationPath session) = .file := by
    by_contra other
    obtain ⟨failure, failed⟩ := read_of_not_file other
    cases read.symm.trans failed
  have there := exists?_of_file stands
  rw [integrationPath] at there read
  unfold listed
  simp only [there, read]
  rfl

/-- When nothing is asked for by name, each listed plugin is found, or the one that stands in for
it. -/
theorem resolve_of_listed (unnamed : plan.plugins = []) (unaided : plan.producers = none)
    (known : listed session = (.ok plugins, session)) :
    resolve plan session = (.ok (plugins.map (standIn plugins), []), session) := by
  have found : (plugins.map (·.name)).filterMap (lookUp? [plugins]) =
      plugins.map (standIn plugins) := by
    rw [List.filterMap_map, ← List.filterMap_eq_map]
    exact List.filterMap_congr fun plugin member => lookUp?_listed member
  have none' :
      (plugins.map (·.name)).filter (fun name => (lookUp? [plugins] name).isNone) = [] := by
    rw [List.filter_eq_nil_iff]
    intro name member
    obtain ⟨plugin, listed, rfl⟩ := List.mem_map.mp member
    rw [lookUp?_listed listed]
    exact Bool.false_ne_true
  rw [resolve, unaided, unnamed]
  dsimp only
  rw [bind_apply, known]
  show (Except.ok ((plugins.map (·.name)).filterMap (lookUp? [plugins]),
    (plugins.map (·.name)).filter fun name => (lookUp? [plugins] name).isNone), session) = _
  rw [found, none']

/-- For every text of the guide to integration: when nothing is asked for by name, what is to be
integrated is what the guide lists, with each plugin replaced by the first one of its short name,
and nothing is unknown. That is the list itself exactly if its plugins are told apart. -/
theorem resolve_lists_iff_toldApart (plan : PluginPlan) (session : Session) (text : Text)
    (unnamed : plan.plugins = []) (unaided : plan.producers = none)
    (read : session.tree.read (integrationPath session) = .ok text) :
    resolve plan session = ((discover session.tree session.guides text).map fun plugins =>
        (plugins.map (standIn plugins), []), session) ∧
      ∀ plugins, discover session.tree session.guides text = .ok plugins →
        (resolve plan session = (.ok (plugins, []), session) ↔ AreToldApart plugins) := by
  have known := listed_of_read read
  cases found : discover session.tree session.guides text with
  | error failure =>
    refine ⟨?_, fun plugins same => ?_⟩
    · rw [found] at known
      rw [resolve, unaided]
      dsimp only
      rw [bind_apply, known]
      rfl
    · cases same
  | ok listed =>
    rw [found] at known
    have resolved := resolve_of_listed unnamed unaided known
    refine ⟨resolved, fun plugins same => ?_⟩
    obtain rfl : listed = plugins := Except.ok.inj same
    rw [← map_standIn_eq_iff (isNamedBySlug_of_discover found), resolved]
    constructor
    · intro both
      exact congrArg Prod.fst (Except.ok.inj (congrArg Prod.fst both))
    · intro both
      rw [both]

/-! ### Two plugins -/

/-- A guide that lists two plugins. -/
def twoHeadings (first second : String) : Text :=
  ("### " ++ first ++ " Plugin\n- **Frontend**: [A README](a.md)\n" ++
    "### " ++ second ++ " Plugin\n- **Backend**: [B README](b.md)\n").toList

/-- What that guide lists. -/
def twoListed (first second : String) : List PluginMetadata :=
  [{ name := slug first.toList, displayName := first.toList, frontend := some "a.md".toList },
    { name := slug second.toList, displayName := second.toList, backend := some "b.md".toList }]

/-- A session with that guide. -/
def twoPlugins (first second : String) : Session :=
  .start { source := "src".toList, destination := "dst".toList } []
    ⟨[(["", "src"].map String.toList, .directory),
      (["", "src", "docs"].map String.toList, .directory),
      (["", "src", "docs", "a.md"].map String.toList, .file []),
      (["", "src", "docs", "b.md"].map String.toList, .file []),
      (["", "src", "docs", "Plugin-Integration.md"].map String.toList,
        .file (Utf8.encode (twoHeadings first second)))]⟩

set_option maxRecDepth 100000 in
/-- Both are found, though nothing is left of the name of one of them in its short name. -/
theorem resolve_nameless_plugin :
    (slug "!!!".toList).isEmpty = true ∧
      resolve {} (twoPlugins "A" "!!!") =
        (.ok (twoListed "A" "!!!", []), twoPlugins "A" "!!!") := by
  have read : (twoPlugins "A" "!!!").tree.read (integrationPath (twoPlugins "A" "!!!")) =
      .ok (twoHeadings "A" "!!!") := eq_ok_of_toOption (by decide +kernel)
  have found : discover (twoPlugins "A" "!!!").tree (twoPlugins "A" "!!!").guides
      (twoHeadings "A" "!!!") = .ok (twoListed "A" "!!!") := eq_ok_of_toOption (by decide +kernel)
  refine ⟨by decide, ((resolve_lists_iff_toldApart {} _ _ rfl rfl read).2 _ found).mpr ?_⟩
  intro plugin member other member'
  simp only [twoListed, List.mem_cons, List.not_mem_nil, or_false] at member member'
  rcases member with rfl | rfl <;> rcases member' with rfl | rfl <;> decide

set_option maxRecDepth 100000 in
/-- Of two plugins whose names differ by a sign that is left out, the first is found twice. -/
theorem second_plugin_not_found :
    (discover (twoPlugins "A B" "A/B").tree (twoPlugins "A B" "A/B").guides
        (twoHeadings "A B" "A/B")).toOption = some (twoListed "A B" "A/B") ∧
      ((resolve {} (twoPlugins "A B" "A/B")).1.toOption.map fun answer =>
        (answer.1.map (·.displayName), answer.2)) =
          some (["A B", "A B"].map String.toList, []) := by
  decide +kernel

end GuidedMigration.Plugin
