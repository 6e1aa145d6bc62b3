import Phrasebook.Proofs.Catalog.Tally
import Phrasebook.Proofs.Run.Failing

/-!
# `Phrasebook.Proofs.Run.Checking`: what a check prints

A check prints the summary of its catalog (`run_of_check`). By the counts of
`Phrasebook.Proofs.Catalog.Tally` this line can be told from the lines of the file,
without reading a single record: `check_counts_lines`. It can be taken apart again, so
nothing of the three counts is lost in the line.
-/

set_option autoImplicit false

namespace Phrasebook.Request

open Line (isHeader isTerminator isFurther)

variable {request : Request} {tree : FileTree} {source : String} {reading : Reading}

/-- A file that is accepted is loaded as its catalog. -/
theorem exists_loading_eq (hread : tree.readText request.input = .ok source)
    (hparse : Catalog.parse source = .ok reading) :
    ∃ events, request.loading tree = ⟨events, .ok reading.catalog⟩ := by
  have hresult := loading_result request tree
  simp only [hread, hparse] at hresult
  exact ⟨(request.loading tree).events, by rw [← hresult]⟩

/-- A check of an accepted file succeeds with the summary, and changes no file. -/
theorem run_of_check (htask : request.task = .check)
    (hread : tree.readText request.input = .ok source)
    (hparse : Catalog.parse source = .ok reading) :
    (request.run tree).failure = none ∧ (request.run tree).tree = tree
      ∧ (request.run tree).stdout = reading.catalog.summary := by
  obtain ⟨events, hload⟩ := exists_loading_eq hread hparse
  have hanswer : request.answer? reading.catalog = some reading.catalog.summary := by
    rw [answer?, htask]
  rw [(Leads.answered hload hanswer).run_eq]
  exact ⟨rfl, rfl, rfl⟩

/-- A file that is accepted has as many headers as terminators. A check of it prints
their number, the number of the other lines that are not blank, and what those begin
with, in order and each once. All of it can be read back from what is printed. -/
theorem check_counts_lines (htask : request.task = .check)
    (hread : tree.readText request.input = .ok source)
    (hparse : Catalog.parse source = .ok reading) :
    (Lines.ofFile source).countP isHeader = (Lines.ofFile source).countP isTerminator
      ∧ ∃ languages : List String,
        languages.Pairwise (· < ·)
        ∧ (∀ lang, lang ∈ languages
          ↔ ∃ line ∈ Lines.ofFile source, isFurther line ∧ lang = .ofList (line.take 2))
        ∧ (request.run tree).failure = none
        ∧ (request.run tree).stdout
          = toString ((Lines.ofFile source).countP isHeader) ++ " records, "
            ++ toString ((Lines.ofFile source).countP isFurther)
            ++ " translations, languages: " ++ ", ".intercalate languages ++ "\n"
        ∧ Summary.read? (request.run tree).stdout
          = some ⟨(Lines.ofFile source).countP isHeader,
              (Lines.ofFile source).countP isFurther, languages⟩ := by
  obtain ⟨hfailure, -, hprinted⟩ := run_of_check htask hread hparse
  have hheaders := Catalog.countP_isHeader hparse
  have hfurther := Catalog.countP_isFurther hparse
  rw [hprinted, Catalog.summary_eq, hheaders, hfurther]
  refine ⟨(Catalog.countP_isTerminator hparse).symm, reading.catalog.languages,
    Catalog.pairwise_languages _, fun lang => Catalog.mem_languages_of_parse hparse, hfailure,
    rfl, ?_⟩
  -- Two characters for each language are all that the reader of the line asks for.
  exact Summary.read?_line fun lang => Catalog.length_of_mem_languages hparse

/-- A file with a mark, both line ends, blank lines, and a language that comes twice. A
line feed is missing at the end. -/
theorem check_counts_lines_marked :
    ∃ (request : Request) (tree : FileTree) (languages : List String),
      request.task = .check
      ∧ tree.readText request.input
        = .ok "\ufeffID:A\r\nit:x\nfr:---\nit:ID:\n---\n\n\r\nID:---\n---"
      ∧ (request.run tree).stdout = "2 records, 3 translations, languages: fr, it\n"
      ∧ Summary.read? (request.run tree).stdout = some ⟨2, 3, languages⟩
      ∧ languages.Pairwise (· < ·) ∧ "fr" ∈ languages := by
  let request : Request :=
    { input := "message.txt", output := none, format := .c, function := "translate"
      langName := "lang_code", activeLang := .global, verbose := false, task := .check }
  let tree : FileTree := (FileTree.empty ["tmp"]).add ["message.txt"]
    (.file "\ufeffID:A\r\nit:x\nfr:---\nit:ID:\n---\n\n\r\nID:---\n---".toUTF8)
  have hbytes : tree.read request.input
      = .ok "\ufeffID:A\r\nit:x\nfr:---\nit:ID:\n---\n\n\r\nID:---\n---".toUTF8 := by
    simp only [tree, request]
    rfl
  have hread := FileTree.readText_of_read hbytes
  have hparse : Catalog.parse "\ufeffID:A\r\nit:x\nfr:---\nit:ID:\n---\n\n\r\nID:---\n---"
      = .ok _ := rfl
  have hheaders : (Lines.ofFile
      "\ufeffID:A\r\nit:x\nfr:---\nit:ID:\n---\n\n\r\nID:---\n---").countP isHeader = 2 := by
    decide
  have hfurther : (Lines.ofFile
      "\ufeffID:A\r\nit:x\nfr:---\nit:ID:\n---\n\n\r\nID:---\n---").countP isFurther = 3 := by
    decide
  obtain ⟨-, languages, hordered, hlangs, -, -, hback⟩ := check_counts_lines rfl hread hparse
  obtain ⟨-, -, hprinted⟩ := run_of_check rfl hread hparse
  rw [hheaders, hfurther] at hback
  have hfr : "fr" ∈ languages := (hlangs "fr").mpr ⟨"fr:---".toList, by decide⟩
  exact ⟨request, tree, languages, rfl, hread, hprinted.trans (by decide), hback, hordered, hfr⟩

end Phrasebook.Request
