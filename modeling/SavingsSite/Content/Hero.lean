set_option autoImplicit false

/-! The hero section at the top of the landing page. Its stat card restates facts of the
questions and answers. -/

namespace SavingsSite

structure CallToAction where
  label : String
  href : String
  deriving DecidableEq, Repr

structure HeroStat where
  label : String
  value : String
  deriving DecidableEq, Repr

/-- All that the hero section shows; each entry of `headline` is a line of its own. -/
structure HeroContent where
  headline : List String
  subheadline : String
  primary : CallToAction
  secondary : CallToAction
  imageSource : String
  imageText : String
  stat : Option HeroStat
  deriving DecidableEq, Repr

namespace Content

def hero : HeroContent where
  headline := ["Grow your savings", "with on-chain yield."]
  subheadline := "Deposit stablecoins, earn transparent yield on Stellar, and " ++
      "withdraw whenever you like."
  primary := { label := "Start Saving", href := "/app" }
  secondary := { label := "How it works", href := "#how-it-works" }
  imageSource := "/images/hero-savings.png"
  imageText := "Nestera savings dashboard showing a growing stablecoin balance"
  stat := some { label := "Supported stablecoins", value := "USDC, USDT" }

end Content

end SavingsSite
