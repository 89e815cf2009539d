/-
Which option may have been meant by a long name that no option has.
-/
import SimReport.CommandLine
import SimReport.Text.Similarity

namespace SimReport
namespace CommandOption

/-- An option is suggested only for names that are more like its own than this. -/
def suggestionLimit : Binary64 := .ofQuotient 7 10

def likeness (name : Text) (o : CommandOption) : Binary64 := Text.similarity name o.name

def alike (name : Text) : List CommandOption :=
  all.filter fun o => suggestionLimit.below (o.likeness name)

def suggestion? (name : Text) : Option CommandOption :=
  (alike name).reverse.find? fun o =>
    (alike name).all fun p => !(likeness name o).below (likeness name p)

end CommandOption
end SimReport
