import SysExporter.Scraper
import SysExporter.Statement.Counter

namespace SysExporter.Statement

def scraper : Scraper where
  name := "sys.user_summary_by_statement_type"
  help := "Collect per user metrics from " ++ view ++ " See " ++
    "https://dev.mysql.com/doc/refman/5.7/en/sys-user-summary-by-statement-type.html"
  version := ⟨5, 7, 0⟩
  scrape := Scrape.scrapeRows projection Summary.observations
  reaches ctx _ := Scrape.Reaches.refl.rows projection Summary.observations ctx

end SysExporter.Statement
