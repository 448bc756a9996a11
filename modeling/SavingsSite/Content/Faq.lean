set_option autoImplicit false

/-! The questions and answers of the site, in display order. An item has no identity beyond its
position. -/

namespace SavingsSite

structure FaqItem where
  question : String
  answer : String
  deriving DecidableEq, Repr

namespace Content

def faqTitle : String := "Frequently Asked Questions"

def faqItems : List FaqItem := [
  { question := "How do I get started with Nestera?"
    answer := "Getting started with Nestera is simple. Connect your wallet, " ++
      "deposit your preferred stablecoin, and start earning yield " ++
      "immediately. No complex setup required—just a few clicks and " ++
      "you're on your way to smarter, on-chain savings." },
  { question := "Can I withdraw my funds at any time?"
    answer := "Yes, you can withdraw your funds at any time without lock-up " ++
      "periods. Nestera is designed for flexibility, allowing you to " ++
      "access your savings whenever you need them while still earning " ++
      "competitive yields." },
  { question := "Is Nestera audited and safe to use on-chain?"
    answer := "Absolutely. Nestera's smart contracts are thoroughly audited by " ++
      "leading security firms. We prioritize transparency and security, " ++
      "with all code verified on-chain and open for community review." },
  { question := "What stablecoins does Nestera currently support?"
    answer := "Nestera currently supports major stablecoins including USDC and " ++
      "USDT on the Stellar network. We're continuously expanding our " ++
      "supported assets to provide you with more options for your " ++
      "savings strategy." }]

end Content

end SavingsSite
