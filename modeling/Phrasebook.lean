import Phrasebook.Cascade.Source
import Phrasebook.Catalog.Asset
import Phrasebook.Catalog.Reader
import Phrasebook.Catalog.Summary
import Phrasebook.FileTree.Basic
import Phrasebook.Log.Filter
import Phrasebook.Main
import Phrasebook.Request.CommandLine
import Phrasebook.Run.Process
import Phrasebook.Table
import Phrasebook.Proofs.C.Scope
import Phrasebook.Proofs.Cascade.Agreement
import Phrasebook.Proofs.Cascade.Bare
import Phrasebook.Proofs.Cascade.Literals
import Phrasebook.Proofs.Cascade.Matching
import Phrasebook.Proofs.Cascade.Names
import Phrasebook.Proofs.Catalog.Asset
import Phrasebook.Proofs.Catalog.Completeness
import Phrasebook.Proofs.Catalog.Concatenation
import Phrasebook.Proofs.Catalog.Diagnosis
import Phrasebook.Proofs.Catalog.Duplicates
import Phrasebook.Proofs.Catalog.FirstFault
import Phrasebook.Proofs.Catalog.Layout
import Phrasebook.Proofs.Catalog.Reachability
import Phrasebook.Proofs.Catalog.Reordering
import Phrasebook.Proofs.Catalog.Soundness
import Phrasebook.Proofs.Catalog.Terminator
import Phrasebook.Proofs.Catalog.Writing
import Phrasebook.Proofs.FileTree.Writing
import Phrasebook.Proofs.Request.Parsing
import Phrasebook.Proofs.Run.Checking
import Phrasebook.Proofs.Run.Failing
import Phrasebook.Proofs.Run.History
import Phrasebook.Proofs.Run.Logging
import Phrasebook.Proofs.Text.Reader
