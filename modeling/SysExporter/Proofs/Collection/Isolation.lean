import Mathlib.Data.List.Permutation
import SysExporter.Proofs.Collection.Cycle
import SysExporter.Proofs.Collection.Ending
import SysExporter.Proofs.Scrape.Shift

namespace SysExporter

open Scrape

namespace Collection

end Collection

end SysExporter
