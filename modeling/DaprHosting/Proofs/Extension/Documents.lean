import DaprHosting.Proofs.Installation.Submission
import DaprHosting.Proofs.Json.Records
import DaprHosting.Proofs.Run.Report
import DaprHosting.Proofs.Upgrade.Circles

/-!
# Extension documents are read as they were written

Every part of an extension is read back from what is written for it, `null` included, so an
extension is known by its document (`ofJson?_toJson`) and by any text of the document. What
`addon create` prints holds the extension as such a text, and `addon update` takes it for the
installed extension, wherever it was put.
-/

namespace DaprHosting

open Json (fields?_of_members optional_ofOption optional_ofString? strings?_ofStrings)

/-! ## 1. Parts -/

theorem ClusterScope.ofJson?_toJson (s : ClusterScope) : ofJson? s.toJson = some s := by
  have hfields := fields?_of_members ["releaseNamespace"]
    [("releaseNamespace", Json.ofString? s.releaseNamespace)] rfl (by decide) false
  rw [ofJson?, toJson, hfields]
  simp only [Option.bind_eq_bind, Option.bind_some, List.map_cons, List.map_nil,
    optional_ofString?]
  rfl

theorem NamespaceScope.ofJson?_toJson (s : NamespaceScope) : ofJson? s.toJson = some s := by
  have hfields := fields?_of_members ["targetNamespace"]
    [("targetNamespace", Json.ofString? s.targetNamespace)] rfl (by decide) false
  rw [ofJson?, toJson, hfields]
  simp only [Option.bind_eq_bind, Option.bind_some, List.map_cons, List.map_nil,
    optional_ofString?]
  rfl

/-- **A scope is read as it was written**, of whichever kind, and of none or both. -/
theorem Scope.ofJson?_toJson (s : Scope) : ofJson? s.toJson = some s := by
  have hfields := fields?_of_members ["cluster", "namespace"]
    [("cluster", Json.ofOption ClusterScope.toJson s.cluster),
     ("namespace", Json.ofOption NamespaceScope.toJson s.inNamespace)] rfl (by decide) false
  have hcluster : ∀ o, Json.optional ClusterScope.ofJson?
      (some (Json.ofOption ClusterScope.toJson o)) = some o :=
    optional_ofOption _ _ nofun ClusterScope.ofJson?_toJson
  have hnamespace : ∀ o, Json.optional NamespaceScope.ofJson?
      (some (Json.ofOption NamespaceScope.toJson o)) = some o :=
    optional_ofOption _ _ nofun NamespaceScope.ofJson?_toJson
  rw [ofJson?, toJson, hfields]
  simp only [Option.bind_eq_bind, Option.bind_some, List.map_cons, List.map_nil, hcluster,
    hnamespace]
  rfl

theorem Identity.ofJson?_toJson (i : Identity) : ofJson? i.toJson = some i := by
  have hfields := fields?_of_members ["type"] [("type", Json.string i.kind)] rfl (by decide) false
  rw [ofJson?, toJson, hfields]
  rfl

/-! ## 2. Extensions -/

namespace Extension

/-- **An extension is read as it was written**: each field, the order of both maps, and the values
    of the protected settings. -/
theorem ofJson?_toJson (x : Extension) : ofJson? x.toJson = some x := by
  have hfields := fields?_of_members fieldNames
    [("extensionType", Json.string x.extensionType),
     ("autoUpgradeMinorVersion", Json.ofOption .bool x.autoUpgradeMinorVersion),
     ("releaseTrain", Json.ofString? x.releaseTrain),
     ("version", Json.ofString? x.version),
     ("scope", x.scope.toJson),
     ("configurationSettings", Json.ofStrings x.settings.entries),
     ("configurationProtectedSettings", Json.ofStrings x.protectedSettings.entries),
     ("identity", Json.ofOption Identity.toJson x.identity)] rfl
    (by decide) true
  have hupgrade : Json.optional Json.bool?
      (some (Json.ofOption .bool x.autoUpgradeMinorVersion)) = some x.autoUpgradeMinorVersion :=
    optional_ofOption Json.bool? .bool nofun (fun _ => rfl) _
  have hscope : Json.fieldOr {} Scope.ofJson? (some x.scope.toJson) = some x.scope :=
    x.scope.ofJson?_toJson
  have hidentity : Json.optional Identity.ofJson?
      (some (Json.ofOption Identity.toJson x.identity)) = some x.identity :=
    optional_ofOption _ _ nofun Identity.ofJson?_toJson _
  rw [ofJson?, toJson, hfields]
  simp only [Option.bind_eq_bind, Option.bind_some, List.map_cons, List.map_nil,
    optional_ofString?, strings?_ofStrings, hupgrade, hscope, hidentity]
  rfl

/-- The extension that a text describes. -/
def read? (text : String) : Option Extension := (Json.read? text).bind ofJson?

/-- **The texts of an extension**: its document compactly or laid out, whatever container it
    stands in, and with white space around it. -/
inductive Written (x : Extension) : String → Prop where
  | compact : Written x x.toJson.compact
  | laidOut (depth : Nat) {ws ws' : List Char} (hbefore : Json.Blank ws)
      (hbehind : Json.Blank ws') :
      Written x (String.ofList (ws ++ x.toJson.layOut depth ++ ws'))

/-- **Every text of an extension is read as this one.** -/
theorem read?_of_written {x : Extension} {text : String} (h : Written x text) :
    read? text = some x := by
  have hdocument : Json.read? text = some x.toJson := by
    cases h with
    | compact => exact Json.read?_compact x.textual.integral
    | laidOut depth hbefore hbehind =>
      rw [List.append_assoc]
      exact Json.read?_framed (Json.valueText_layOut x.textual.integral depth) hbefore hbehind
  rw [read?, hdocument, Option.bind_some, ofJson?_toJson]

end Extension

/-! ## 3. What is printed and what is taken -/

/-- What `addon create` prints holds the laid-out extension. -/
theorem Installation.pretty_toJson (i : Installation) :
    i.toJson.pretty ++ "\n" =
      "\x7b\n  \"releaseName\": " ++ String.ofList (Json.quote i.releaseName) ++
        ",\n  \"extension\": " ++ String.ofList (i.extension.toJson.layOut 1) ++ "\n\x7d\n" := by
  have hname : Json.quote "releaseName" = "\"releaseName\"".toList := by decide
  have hextension : Json.quote "extension" = "\"extension\"".toList := by decide
  apply String.toList_injective
  simp only [Json.pretty, Installation.toJson, Json.layOut, Json.layOutMembers, Json.newLine,
    hname, hextension, String.toList_append, String.toList_ofList]
  simp

/-- The document around it describes no extension of its own: no name in it is that of a field. -/
theorem Installation.ofJson?_toJson (i : Installation) : Extension.ofJson? i.toJson = some {} := by
  rfl

section Handover

variable {σ τ : Type} {operator : Operator σ} {files : Files} {network : Http.Network}
  {s : Surroundings σ} {command : CommandLine.Command}

/-- A file with a text of an extension is taken for this extension. -/
theorem readExtension_of_written {path text : String} {x : Extension} (hfile : files path = .ok text)
    (h : Extension.Written x text) : readExtension files path = .ok x := by
  have hread : (Json.read? text).bind Extension.ofJson? = some x := Extension.read?_of_written h
  rw [readExtension, hfile]
  dsimp only
  rw [hread]

/-- An installation has the version of its request, if the request has one. -/
theorem version_of_build {request : InstallRequest} {t : σ} {i : Installation}
    (h : (Installation.build operator request t).result = .ok i) :
    i.extension.version = request.version := by
  rw [Installation.build_result_of_cluster operator (Installation.scope_of_build h)] at h
  cases hrelease : (Release.resolve operator request.releaseName request.releaseNamespace
    request.settings t).result with
  | error e =>
    rw [hrelease] at h
    cases h
  | ok release =>
    rw [hrelease] at h
    cases h
    rfl

variable (x : Extension) (i : Installation) (request : InstallRequest) (r : Report)

/-- **What `addon update` makes of an extension**: any file with a text of it is taken for it, the
    run has a patch for it, and with its own version this is no step back. -/
structure Extension.Accepted : Prop where
  taken : ∀ (files : Files) (path text : String), x.Written text → files path = .ok text →
    readExtension files path = .ok x
  patched : ∀ {τ : Type} (operator : Operator τ) (files : Files) (network : Http.Network)
    (s : Surroundings τ) (command : CommandLine.Command) (c : UpdateConfig) (text : String),
    command.load files = .ok (.update c) → files c.installed = .ok text → x.Written text →
    (run operator files network s command).1.result = .ok (Patch.ofRequest c.request x).toJson
  stays : ∀ requested : Option String, requested = x.version →
    ¬ Patch.GoesBack requested x.version

/-- **What `addon create` prints for a request**: behind the name of the release a text of the
    extension, which has the version that was asked for and is accepted. -/
structure Installation.Printed : Prop where
  output : ∃ text, i.extension.Written text ∧ r.output =
    "\x7b\n  \"releaseName\": " ++ String.ofList (Json.quote i.releaseName) ++
      ",\n  \"extension\": " ++ text ++ "\n\x7d\n"
  version : i.extension.version = request.version
  accepted : i.extension.Accepted

variable {x i request r}

/-- Every extension is accepted. -/
theorem Extension.accepted : x.Accepted := by
  refine ⟨fun files path text htext hfile => readExtension_of_written hfile htext, ?patched, ?stays⟩
  case patched =>
    intro τ operator files network s command c text hload hfile htext
    rw [run_update hload, readExtension_of_written hfile htext]
    rfl
  case stays =>
    rintro _ rfl ⟨requested, installed, hrequested, hinstalled, hback⟩
    rw [hrequested] at hinstalled
    cases hinstalled
    rw [Version.isDowngrade_self] at hback
    cases hback

/-- What a run of `addon create` makes is printed, and its extension can be handed over. -/
theorem Installation.printed_of_run {c : InstallConfig} {d : Json}
    (hload : command.load files = .ok (.install c))
    (hrun : (run operator files network s command).1.result = .ok d) :
    ∃ i : Installation, d = i.toJson ∧
      Installation.Printed i c.request (run operator files network s command).1 := by
  cases run_eq_ok_iff.mp hrun with
  | patch hload' => rw [hload] at hload'; cases hload'
  | ids hload' => rw [hload] at hload'; cases hload'
  | @extension c' i hload' hbuild =>
    rw [hload] at hload'
    cases hload'
    have htext := Extension.Written.laidOut (x := i.extension) 1 Json.blank_nil Json.blank_nil
    refine ⟨i, rfl, ⟨_, htext, ?_⟩, version_of_build hbuild, Extension.accepted⟩
    rw [Report.output, hrun]
    dsimp only
    rw [i.pretty_toJson, List.nil_append, List.append_nil]

end Handover

/-- **Extensions are read as they were written.** Every extension is read from its document, and
    from every text of it; so an extension that was read from whatever text is read again, alone,
    from each text that is then written of it; and a run of `addon create` that comes to a document
    prints an extension that `addon update` accepts, with the version that was asked for. -/
theorem extensions_are_read_back :
    (∀ x : Extension, Extension.ofJson? x.toJson = some x ∧
      ∀ text, x.Written text → Extension.read? text = some x) ∧
    (∀ (text : String) (x : Extension), Extension.read? text = some x →
      ∀ again, x.Written again → ∀ y, Extension.read? again = some y ↔ y = x) ∧
    ∀ {σ : Type} (operator : Operator σ) (files : Files) (network : Http.Network)
      (s : Surroundings σ) (command : CommandLine.Command) (c : InstallConfig) (d : Json),
      command.load files = .ok (.install c) →
      (run operator files network s command).1.result = .ok d →
      ∃ i : Installation, d = i.toJson ∧
        Installation.Printed i c.request (run operator files network s command).1 := by
  refine ⟨fun x => ⟨x.ofJson?_toJson, fun _ => Extension.read?_of_written⟩, ?stable, ?handed⟩
  case stable =>
    intro text x _ again hagain y
    rw [Extension.read?_of_written hagain, Option.some.injEq]
    exact eq_comm
  case handed =>
    intro σ operator files network s command c d hload hrun
    exact Installation.printed_of_run hload hrun

/-- A document of the extension manager, with a field that is not known and a map that is not set;
    and a run that takes over a release with a secret. -/
theorem extensions_are_read_back_secret :
    let text := "\x7b\"version\":\"1.11.2\",\"state\":\"ok\",\"configurationSettings\":null\x7d"
    let installed : Extension := { version := some "1.11.2" }
    let files : Files := fun _ => .error .missing
    let s : Surroundings Unit := ⟨(), ⟨[], []⟩⟩
    let command : CommandLine.Command := .install ⟨none,
      { name := some "dapr"
        settings :=
          { version := some "1.12.0"
            settings := [⟨Settings.existingReleaseNameKey, "dapr"⟩,
              ⟨Settings.existingReleaseNamespaceKey, "infra"⟩]
            protectedSettings := [⟨"token", "a\"b"⟩] } }⟩
    Extension.read? text = some installed ∧
      (∀ y, Extension.read? installed.toJson.compact = some y ↔ y = installed) ∧
      ∃ i request, request.version = some "1.12.0" ∧
        Installation.Printed i request (run .nobody files ⟨fun _ => true⟩ s command).1 := by
  intro text installed files s command
  obtain ⟨-, hstable, hprinted⟩ := extensions_are_read_back
  have hread : Extension.read? text = some installed := by decide +kernel
  obtain ⟨c, hload, hversion⟩ : ∃ c, command.load files = .ok (.install c) ∧
      c.request.version = some "1.12.0" := ⟨_, rfl, rfl⟩
  obtain ⟨d, hrun⟩ : ∃ d,
      (run .nobody files ⟨fun _ => true⟩ s command).1.result = .ok d := ⟨_, rfl⟩
  obtain ⟨i, -, hprint⟩ := hprinted .nobody files ⟨fun _ => true⟩ s command c d hload hrun
  exact ⟨hread, hstable text installed hread _ .compact, i, c.request, hversion, hprint⟩

end DaprHosting
