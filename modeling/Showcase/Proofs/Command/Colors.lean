import Showcase.Proofs.Command.Execution
import Showcase.Proofs.Report.Colors

namespace Showcase

/-!
# Commands with and without colours

Whether there are colours is settled before the work begins, and it is asked for only when the
output goes to the terminal.  With an output file two runs that differ in nothing else leave the
same behind.
-/

open Report

namespace Command

variable {machine : Machine} {settings : Settings}

theorem written_withColors (hfile : settings.outputFile.isSome) (environment : Environment)
    (colors : Bool) :
    written Walker.folders { machine with environment } (settings.withColors colors) =
      written Walker.folders machine settings := by
  have hstyle := style_withColors hfile colors
  have hrun : (Collector.runWith (settings.withColors colors) machine.disk machine.clock
      machine.parallel).outcome =
        (Collector.runWith settings machine.disk machine.clock machine.parallel).outcome := by
    rw [Collector.runWith, Collector.runWith, Collector.ofSettings_withColors]
    cases Collector.ofSettings settings with
    | error fault => rfl
    | ok collector =>
        have hcollect := collector.collectListed_withColors colors
          (collector.walker.folders machine.disk) machine.disk machine.clock machine.parallel
        exact congrArg Run.outcome hcollect
  rw [written, written, collected_folders, collected_folders, hrun, hstyle]
  rfl

end Command

theorem Execution.Leaves.congr {execution execution' : Execution} {machine machine' : Machine}
    {left : Except Fault (Disk × String)} (h : execution.Leaves machine left)
    (h' : execution'.Leaves machine' left) (hdisk : machine'.disk = machine.disk) :
    execution'.outcome = execution.outcome ∧ execution'.disk = execution.disk ∧
      execution'.output = execution.output := by
  cases left with
  | ok left =>
      obtain ⟨houtcome, hleft, houtput⟩ := h
      obtain ⟨houtcome', hleft', houtput'⟩ := h'
      exact ⟨houtcome'.trans houtcome.symm, hleft'.trans hleft.symm, houtput'.trans houtput.symm⟩
  | error fault =>
      obtain ⟨houtcome, hleft, houtput⟩ := h
      obtain ⟨houtcome', hleft', houtput'⟩ := h'
      exact ⟨houtcome'.trans houtcome.symm, (hleft'.trans hdisk).trans hleft.symm,
        houtput'.trans houtput.symm⟩

namespace Command

/-- Without its colour sequences the text with colours is the one without.  Other formats have no
colours, nor has what is written to a file, so that of two runs that resolve to settings with
another say about colours both write the same. -/
theorem colors_are_decoration :
    (∀ results, EscapeFreeResults results → ∀ verbose quiet, ∃ colored,
      results.format .text ⟨true, verbose, quiet⟩ = .ok colored ∧
        results.format .text ⟨false, verbose, quiet⟩ = .ok (withoutColors colored)) ∧
      (∀ (results : Results) format, format ≠ .text → ∀ colors style,
        results.format format { style with colors } = results.format format style) ∧
      (∀ settings : Settings, settings.outputFile.isSome → ∀ colors (results : Results) format,
        results.format format (style (settings.withColors colors)) =
          results.format format (style settings)) ∧
      ∀ machine arguments settings, Resolves machine arguments settings →
        settings.outputFile.isSome → ∀ environment arguments' colors,
          Resolves { machine with environment } arguments' (settings.withColors colors) →
            let plain := execute (.generate arguments) machine
            let colored := execute (.generate arguments') { machine with environment }
            colored.outcome = plain.outcome ∧ colored.disk = plain.disk ∧
              colored.output = plain.output := by
  refine ⟨fun results h => results.withoutColors_format h, ?_, ?_, ?_⟩
  · intro results format hformat colors style
    exact results.format_eq_of_ne_text hformat _ _
  · intro settings hfile colors results format
    rw [style_withColors hfile]
  · intro machine arguments settings hplain hfile environment arguments' colors hcolored
    have hleft := hcolored.execute_leaves Walker.folders
    rw [written_withColors hfile] at hleft
    exact (hplain.execute_leaves Walker.folders).congr hleft rfl

namespace Painted

def component : FolderOptions where
  name := "button"
  folder := "./button"
  configPath := "./button/readme.js"
  language := .js
  component := ⟨"(p) => p.text", .inline, ⟨"./button/readme.js", 1, 31⟩⟩
  props := [⟨0, "\x7b text: 'Save' \x7d", none, ⟨some "Short", none, none⟩⟩]
  metadata := ⟨some "Button", some "What is clicked.", none, none⟩

def results : Results where
  root := "."
  global := some ⟨some "Controls", none, none⟩
  components := [component]
  errors := [⟨"./card", "cannot find `./card/readme.js`", .error⟩]
  summary := ⟨2, 1, 1, 1, 1500000⟩
  generatedAt := .epoch

theorem escapeFree_results : EscapeFreeResults results where
  root := by decide
  title := by
    rintro s ⟨⟩
    decide
  folder := by decide
  message := by decide
  component := by
    intro other hother
    obtain rfl := List.mem_singleton.mp hother
    exact
      { title := by decide
        configPath := by decide
        place := by decide
        description := by
          rintro s ⟨⟩
          decide
        code := by decide
        alt := by
          rintro entry hentry s hs
          obtain rfl := List.mem_singleton.mp hentry
          cases hs
          decide
        entryCode := by decide }

def machine : Machine where
  disk := ⟨.directory [("button", .directory [("readme.js", .file (.text "export const a = 1"))])],
    []⟩
  environment := []
  clock := ⟨.epoch, 0⟩
  parallel := Schedule.inOrder

def arguments : Arguments := { Arguments.empty with outputFile := some "list.txt" }

def settings : Settings := { Settings.default with outputFile := some "list.txt" }

theorem resolves : Resolves machine arguments settings := by
  refine resolves_of_toOption ?_ ?_ <;> decide +kernel

theorem resolves_noColors :
    Resolves machine { arguments with switches := [.noColors] } (settings.withColors false) := by
  refine resolves_of_toOption ?_ ?_ <;> decide +kernel

end Painted

open Painted in
theorem colors_are_decoration_button :
    EscapeFreeResults results ∧
      (∃ colored, results.format .text ⟨true, true, false⟩ = .ok colored ∧
        results.format .text ⟨false, true, false⟩ = .ok (withoutColors colored)) ∧
      results.format .markdown ⟨true, true, false⟩ =
        results.format .markdown ⟨false, true, false⟩ ∧
      settings.outputFile.isSome ∧
      results.format .text (style (settings.withColors false)) =
        results.format .text (style settings) ∧
      (execute (.generate { arguments with switches := [.noColors] }) machine).disk =
        (execute (.generate arguments) machine).disk := by
  obtain ⟨htext, hformat, hfile, hrun⟩ := colors_are_decoration
  have hsome : settings.outputFile.isSome := rfl
  obtain ⟨-, hdisk, -⟩ := hrun machine arguments settings resolves hsome machine.environment _ false
    resolves_noColors
  exact ⟨escapeFree_results, htext results escapeFree_results true false,
    hformat results .markdown nofun true ⟨false, true, false⟩, hsome,
    hfile settings hsome false results .text, hdisk⟩

end Command

end Showcase
