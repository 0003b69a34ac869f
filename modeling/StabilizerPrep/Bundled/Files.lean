import StabilizerPrep.Bundled.Bases
import StabilizerPrep.Bundled.Five
import StabilizerPrep.Bundled.SixAll
import StabilizerPrep.Bundled.SixE
import StabilizerPrep.Bundled.SixH
import StabilizerPrep.Bundled.SixLadder
import StabilizerPrep.Bundled.SixLinear
import StabilizerPrep.Bundled.SixQ
import StabilizerPrep.Bundled.SixStar
import StabilizerPrep.Bundled.Small
import StabilizerPrep.Template.Source

/-!
# Bundled tables

The tables that come with the library, under their file names: templates for
every supported device, and bases for every device that has them.
-/

namespace StabilizerPrep.Bundled

set_option autoImplicit false

def files : List (String × String) :=
  [("stabilizer2-all.txt", text 2 twoAll),
    ("stabilizer3-all.txt", text 3 threeAll),
    ("stabilizer3-linear.txt", text 3 threeLinear),
    ("stabilizer4-all.txt", text 4 fourAll),
    ("stabilizer4-linear.txt", text 4 fourLinear),
    ("stabilizer4-star.txt", text 4 fourStar),
    ("stabilizer4-cycle.txt", text 4 fourCycle),
    ("stabilizer5-all.txt", text 5 fiveAll),
    ("stabilizer5-linear.txt", text 5 fiveLinear),
    ("stabilizer5-star.txt", text 5 fiveStar),
    ("stabilizer5-cycle.txt", text 5 fiveCycle),
    ("stabilizer5-T.txt", text 5 fiveT),
    ("stabilizer5-Q.txt", text 5 fiveQ),
    ("stabilizer6-all.txt", text 6 sixAll),
    ("stabilizer6-linear.txt", text 6 sixLinear),
    ("stabilizer6-star.txt", text 6 sixStar),
    ("stabilizer6-ladder.txt", text 6 sixLadder),
    ("stabilizer6-E.txt", text 6 sixE),
    ("stabilizer6-H.txt", text 6 sixH),
    ("stabilizer6-Q.txt", text 6 sixQ),
    ("mub2-all.txt", basesTwoAll),
    ("mub3-all.txt", basesThreeAll),
    ("mub3-linear.txt", basesThreeLinear),
    ("mub4-all.txt", basesFourAll),
    ("mub4-linear.txt", basesFourLinear),
    ("mub4-star.txt", basesFourStar),
    ("mub4-cycle.txt", basesFourCycle),
    ("mub5-all-bases.txt", basesFiveAll),
    ("mub5-linear-bases.txt", basesFiveLinear),
    ("mub5-star-bases.txt", basesFiveStar),
    ("mub5-cycle-bases.txt", basesFiveCycle),
    ("mub5-T-bases.txt", basesFiveT),
    ("mub5-Q-bases.txt", basesFiveQ),
    ("mub6-all-bases.txt", basesSixAll)]

end StabilizerPrep.Bundled

namespace StabilizerPrep.Source

set_option autoImplicit false

def bundled : Source where
  name := "bundled"
  read file :=
    match Bundled.files.lookup file with
    | some text => .ok text
    | none => .error (.missingTable file)

end StabilizerPrep.Source
