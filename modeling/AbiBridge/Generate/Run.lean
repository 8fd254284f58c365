import AbiBridge.Callback.Choice
import AbiBridge.Generate.Prune
import AbiBridge.Generate.Report
import AbiBridge.Generate.Structs

/-!
# Generating a module

A run over the description of a library and the reports of two platforms makes a
module and a report. An entity that cannot be made is left out with everything that
refers to it; only a malformed pattern in the configuration stops a run.
-/

namespace AbiBridge

structure Generated where
  bindings : Bindings
  report : Report

/-- The typedefs and structs of a run before pruning. -/
structure Drafts where
  items : Survivors
  callbacks : List Callback
  consts : List ConstItem
  log : List EntityIssue
  dropped : List String

def Config.platforms (config : Config) (reportA reportB : PlatformReport) : PlatformPair :=
  ⟨config.platformA, config.platformB, reportA, reportB⟩

def Config.includedCallbacks (config : Config) (api : Api) : List StructDecl :=
  api.callbackStructs.filter fun decl => !config.filters.excludedCallbacks.contains decl.name

/-- The typedefs of a descriptor that the configuration does not replace. -/
def Config.ownTypedefs (config : Config) (api : Api) : List (String × String) :=
  (api.typedefs.filter fun decl => !config.extraTypedefs.contains decl.name).map fun decl =>
    (decl.name, decl.target)

namespace Scope

/-- Make typedefs, enums, constants and structs, and choose the callbacks. -/
def drafts (scope : Scope) (config : Config) (api : Api) (layouts : Layouts) : Drafts :=
  let extraTypedefs := scope.typedefItems [] config.extraTypedefs.entries
  let typedefs := scope.typedefItems extraTypedefs.dropped (config.ownTypedefs api)
  let consts := scope.constItems typedefs.dropped none api.consts
  let payloads := scope.structItems layouts typedefs.dropped (config.includedCallbacks api)
  let structs := scope.structItems layouts payloads.dropped api.structs
  let choice := chooseCallbacks payloads.made scope.index config.shim.deny
  let rejected := choice.rejected.map (·.entity)
  { items := {
      extraTypedefs := extraTypedefs.made
      typedefs := typedefs.made
      callbackStructs := payloads.made.filter fun item => !rejected.contains item.name
      structs := structs.made }
    callbacks := choice.callbacks
    consts := consts.made
    log := extraTypedefs.log ++ typedefs.log ++ api.enumLog ++ consts.log ++ payloads.log
      ++ structs.log ++ choice.rejected
    dropped := rejected ++ structs.dropped }

def generate (scope : Scope) (config : Config) (api : Api) (reportA reportB : PlatformReport) :
    Generated :=
  let platforms := config.platforms reportA reportB
  let layouts := Layouts.ofStructs platforms (config.includedCallbacks api ++ api.structs)
  let drafts := scope.drafts config api layouts
  let pruned := pruneAll drafts.dropped drafts.items
  let items := pruned.items
  let interfaces := scope.interfaceItems pruned.dropped api.interfaces
  let bindings : Bindings := {
    extraTypedefs := items.extraTypedefs
    opaqueTypes := config.opaqueTypes
    typedefs := items.typedefs
    enums := api.enumItems
    consts := drafts.consts
    callbackStructs := items.callbackStructs.map scope.finishStruct
    structs := items.structs.map scope.finishStruct
    interfaces := interfaces.made
    callbacks := drafts.callbacks.filter fun callback =>
      items.callbackStructs.any (·.name == callback.payload) }
  let notes := layouts.available.flatMap (·.notes config.platformA.name config.platformB.name)
  { bindings
    report := .ofLog (drafts.log ++ pruned.log ++ interfaces.log) notes bindings }

end Scope

def Config.generate (config : Config) (patterns : PatternLanguage) (api : Api)
    (reportA reportB : PlatformReport) : Except InvalidPattern Generated := do
  let scope ← Scope.ofConfig patterns config api
  return scope.generate config api reportA reportB

end AbiBridge
