import PrintPlanner.Fixture.Basic

/-!
# The office fixture

Text, images and PostScript pass through PDF into raster data.  An image becomes
raster data at once only if it has at most one mebibyte.
-/

set_option autoImplicit false

namespace PrintPlanner.Fixture

/-- The filters of an office. -/
def officeDeclarations : List Declaration := [
  .filter "text/plain" "application/pdf" 32 "texttopdf",
  .filter "image/png" "application/pdf" 32 "imagetopdf",
  .filter "application/postscript" "application/pdf" 66 "pstopdf",
  .filter "application/pdf" "application/postscript" 66 "pdftops",
  .filter "application/pdf" "application/vnd.cups-raster" 100 "pdftoraster",
  .limitedFilter "image/png" "application/vnd.cups-raster" 50 1048576 "imagetoraster"]

/-- The graph of an office, without printers. -/
def office : Except FixtureFault FilterGraph :=
  build (officeDeclarations.map .declare) .empty

end PrintPlanner.Fixture
