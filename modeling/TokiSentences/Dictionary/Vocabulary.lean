namespace TokiSentences.Dictionary

def textOf (lines : List String) : String := String.join (lines.map (· ++ "\n"))

/-- This dictionary and the next are data for a run; no theorem looks into them. -/
def coreText : String := textOf [
  "// toki pona core vocabulary with part-of-speech tagged definitions.",
  "\x7b",
  "    \"a\": Entry(definitions: [\"(particle) emphasis, emotion or confirmation\"], usage: Some(\"core\")),",
  "    \"akesi\": Entry(definitions: [\"(noun) reptile, amphibian\"], usage: Some(\"core\")),",
  "    \"ala\": Entry(definitions: [\"(particle) not, don't\", \"(noun) nothing\", \"(adjective) no\"], usage: Some(\"core\")),",
  "    \"ale\": Entry(definitions: [\"(noun) everything, anything, life, the universe\", \"(adjective) all, every, complete\"], usage: Some(\"core\")),",
  "    \"ali\": Entry(definitions: [\"(noun) everything, anything, life, the universe\"], usage: Some(\"core\")),",
  "    \"anpa\": Entry(definitions: [\"(adjective) bowing down, downward, humble\", \"(noun) the bottom, lower part\"], usage: Some(\"core\")),",
  "    \"ante\": Entry(definitions: [\"(adjective) different, altered, changed, other\"], usage: Some(\"core\")),",
  "    \"anu\": Entry(definitions: [\"(particle) or\"], usage: Some(\"core\")),",
  "    \"awen\": Entry(definitions: [\"(preverb) to continue to\", \"(adjective) enduring, kept, protected, safe\", \"(verb) to wait, stay\"], usage: Some(\"core\")),",
  "    \"e\": Entry(definitions: [\"(particle) before the direct object\"], usage: Some(\"core\")),",
  "    \"en\": Entry(definitions: [\"(particle) between multiple subjects\"], usage: Some(\"core\")),",
  "    \"esun\": Entry(definitions: [\"(noun) market, shop, fair, bazaar\"], usage: Some(\"core\")),",
  "    \"ijo\": Entry(definitions: [\"(noun) thing, phenomenon, object, matter\"], usage: Some(\"core\")),",
  "    \"ike\": Entry(definitions: [\"(adjective) bad, negative, non-essential, irrelevant\"], usage: Some(\"core\")),",
  "    \"ilo\": Entry(definitions: [\"(noun) tool, implement, machine, device\"], usage: Some(\"core\")),",
  "    \"insa\": Entry(definitions: [\"(noun) centre, content, inside, between\"], usage: Some(\"core\")),",
  "    \"jaki\": Entry(definitions: [\"(adjective) disgusting, obscene, sickly, toxic, unclean\"], usage: Some(\"core\")),",
  "    \"jan\": Entry(definitions: [\"(noun) human being, person, somebody\"], usage: Some(\"core\")),",
  "    \"jelo\": Entry(definitions: [\"(adjective) yellow, amber, golden\"], usage: Some(\"core\")),",
  "    \"jo\": Entry(definitions: [\"(verb) to have, carry, contain, hold\"], usage: Some(\"core\")),",
  "    \"kala\": Entry(definitions: [\"(noun) fish, marine animal, sea creature\"], usage: Some(\"core\")),",
  "    \"kalama\": Entry(definitions: [\"(verb) to produce a sound, recite, utter aloud\"], usage: Some(\"core\")),",
  "    \"kama\": Entry(definitions: [\"(preverb) to become, manage to, succeed in\", \"(adjective) arriving, coming, future, summoned\"], usage: Some(\"core\")),",
  "    \"kasi\": Entry(definitions: [\"(noun) plant, vegetation, herb, leaf\"], usage: Some(\"core\")),",
  "    \"ken\": Entry(definitions: [\"(preverb) to be able to, be allowed to, can, may\", \"(noun) possibility\"], usage: Some(\"core\")),",
  "    \"kepeken\": Entry(definitions: [\"(preposition) to use, with, by means of\"], usage: Some(\"core\")),",
  "    \"kijetesantakalu\": Entry(definitions: [\"(noun) raccoon, procyonid\"], usage: Some(\"obscure\")),",
  "    \"kiki\": Entry(definitions: [\"(adjective) spiky, sharp, pointy\"], usage: Some(\"obscure\")),",
  "    \"kili\": Entry(definitions: [\"(noun) fruit, vegetable, mushroom\"], usage: Some(\"core\")),",
  "    \"kiwen\": Entry(definitions: [\"(noun) hard object, metal, rock, stone\"], usage: Some(\"core\")),",
  "    \"ko\": Entry(definitions: [\"(noun) clay, clinging form, dough, semi-solid, paste, powder\"], usage: Some(\"core\")),",
  "    \"kon\": Entry(definitions: [\"(noun) air, breath, essence, spirit\"], usage: Some(\"core\")),",
  "    \"kule\": Entry(definitions: [\"(adjective) colourful, pigmented, painted\"], usage: Some(\"core\")),",
  "    \"kulupu\": Entry(definitions: [\"(noun) community, company, group, nation, society, tribe\"], usage: Some(\"core\")),",
  "    \"kute\": Entry(definitions: [\"(noun) ear\", \"(verb) to hear, listen, pay attention to, obey\"], usage: Some(\"core\")),",
  "    \"la\": Entry(definitions: [\"(particle) between the context phrase and the main sentence\"], usage: Some(\"core\")),",
  "    \"lape\": Entry(definitions: [\"(adjective) sleeping, resting\"], usage: Some(\"core\")),",
  "    \"laso\": Entry(definitions: [\"(adjective) turquoise, blue, green, cyan, indigo, lime green\"], usage: Some(\"core\")),",
  "    \"lawa\": Entry(definitions: [\"(noun) head, mind\", \"(verb) to control, direct, guide, lead, own, plan, regulate, rule\"], usage: Some(\"core\")),",
  "    \"len\": Entry(definitions: [\"(noun) cloth, clothing, fabric, textile; cover, layer of privacy\"], usage: Some(\"core\")),",
  "    \"li\": Entry(definitions: [\"(particle) between any subject except mi alone or sina alone and its verb\"], usage: Some(\"core\")),",
  "    \"lili\": Entry(definitions: [\"(adjective) little, small, short; few; a bit; young\"], usage: Some(\"core\")),",
  "    \"linja\": Entry(definitions: [\"(noun) long and flexible thing; cord, hair, rope, thread, yarn\"], usage: Some(\"core\")),",
  "    \"lipu\": Entry(definitions: [\"(noun) flat object; book, document, card, paper, record, website\"], usage: Some(\"core\")),",
  "    \"loje\": Entry(definitions: [\"(adjective) red, magenta, scarlet, pink, rust-coloured\"], usage: Some(\"core\")),",
  "    \"lon\": Entry(definitions: [\"(preposition) located at, present at, real, true, existing\"], usage: Some(\"core\")),",
  "    \"luka\": Entry(definitions: [\"(noun) arm, hand, tactile organ\", \"(number) five\"], usage: Some(\"core\")),",
  "    \"lukin\": Entry(definitions: [\"(preverb) to seek, look for, try to\", \"(noun) eye\", \"(verb) to look at, see, examine, observe, read, watch\"], usage: Some(\"core\")),",
  "    \"ma\": Entry(definitions: [\"(noun) earth, land; outdoors, world; country, territory; soil\"], usage: Some(\"core\")),",
  "    \"mama\": Entry(definitions: [\"(noun) parent, ancestor; creator, originator; caretaker, sustainer\"], usage: Some(\"core\")),",
  "    \"mani\": Entry(definitions: [\"(noun) money, cash, savings, wealth; large domesticated animal\"], usage: Some(\"core\")),",
  "    \"mi\": Entry(definitions: [\"(noun) I, me, we, us\"], usage: Some(\"core\")),",
  "    \"moku\": Entry(definitions: [\"(verb) to eat, drink, consume, swallow, ingest\"], usage: Some(\"core\")),",
  "    \"moli\": Entry(definitions: [\"(adjective) dead, dying\"], usage: Some(\"core\")),",
  "    \"mun\": Entry(definitions: [\"(noun) moon, night sky object, star\"], usage: Some(\"core\")),",
  "    \"musi\": Entry(definitions: [\"(adjective) artistic, entertaining, frivolous, playful, recreational\"], usage: Some(\"core\")),",
  "    \"mute\": Entry(definitions: [\"(adjective) many, a lot, more, much, several, very\", \"(noun) quantity\"], usage: Some(\"core\")),",
  "    \"nanpa\": Entry(definitions: [\"(particle) -th (ordinal number)\", \"(noun) numbers\"], usage: Some(\"core\")),",
  "    \"nasa\": Entry(definitions: [\"(adjective) unusual, strange; foolish, crazy; drunk, intoxicated\"], usage: Some(\"core\")),",
  "    \"nena\": Entry(definitions: [\"(noun) bump, button, hill, mountain, nose, protuberance\"], usage: Some(\"core\")),",
  "    \"ni\": Entry(definitions: [\"(noun) that, this\"], usage: Some(\"core\")),",
  "    \"nimi\": Entry(definitions: [\"(noun) name, word\"], usage: Some(\"core\")),",
  "    \"o\": Entry(definitions: [\"(particle) hey! O! (vocative or imperative)\"], usage: Some(\"core\")),",
  "    \"olin\": Entry(definitions: [\"(verb) to love, have compassion for, respect, show affection to\"], usage: Some(\"core\")),",
  "    \"ona\": Entry(definitions: [\"(noun) he, she, it, they\"], usage: Some(\"core\")),",
  "    \"open\": Entry(definitions: [\"(verb) to begin, start; open; turn on\"], usage: Some(\"core\")),",
  "    \"pakala\": Entry(definitions: [\"(adjective) botched, broken, damaged, harmed, messed up\"], usage: Some(\"core\")),",
  "    \"pali\": Entry(definitions: [\"(verb) to do, take action on, work on; build, make, prepare\"], usage: Some(\"core\")),",
  "    \"pana\": Entry(definitions: [\"(verb) to give, send, emit, provide, put, release\"], usage: Some(\"core\")),",
  "    \"pi\": Entry(definitions: [\"(particle) of\"], usage: Some(\"core\")),",
  "    \"pilin\": Entry(definitions: [\"(noun) heart (physical or emotional)\", \"(adjective) feeling (an emotion, a direct experience)\"], usage: Some(\"core\")),",
  "    \"poka\": Entry(definitions: [\"(noun) hip, side; next to, nearby, vicinity\"], usage: Some(\"core\")),",
  "    \"pona\": Entry(definitions: [\"(adjective) good, positive, useful; friendly, peaceful; simple\"], usage: Some(\"core\")),",
  "    \"sama\": Entry(definitions: [\"(adjective) same, similar; each other; sibling, peer, fellow\", \"(preposition) as, like\"], usage: Some(\"core\")),",
  "    \"seme\": Entry(definitions: [\"(particle) what? which?\"], usage: Some(\"core\")),",
  "    \"sina\": Entry(definitions: [\"(noun) you\"], usage: Some(\"core\")),",
  "    \"sona\": Entry(definitions: [\"(preverb) to know how to\", \"(verb) to know, be skilled in, be wise about, have information on\"], usage: Some(\"core\")),",
  "    \"soweli\": Entry(definitions: [\"(noun) animal, beast, land mammal\"], usage: Some(\"core\")),",
  "    \"suli\": Entry(definitions: [\"(adjective) big, heavy, large, long, tall; important; adult\"], usage: Some(\"core\")),",
  "    \"suno\": Entry(definitions: [\"(noun) sun; light, brightness, glow, radiance, shine\"], usage: Some(\"core\")),",
  "    \"tan\": Entry(definitions: [\"(preposition) by, from, because of\", \"(noun) origin, cause\"], usage: Some(\"core\")),",
  "    \"tawa\": Entry(definitions: [\"(preposition) going to, toward; for; from the perspective of\", \"(adjective) moving\"], usage: Some(\"core\")),",
  "    \"telo\": Entry(definitions: [\"(noun) water, liquid, fluid, wet substance; beverage\"], usage: Some(\"core\")),",
  "    \"tenpo\": Entry(definitions: [\"(noun) time, duration, moment, occasion, period, situation\"], usage: Some(\"core\")),",
  "    \"toki\": Entry(definitions: [\"(verb) to communicate, say, speak, talk, use language, think\", \"(interjection) hello!\"], usage: Some(\"core\")),",
  "    \"tomo\": Entry(definitions: [\"(noun) indoor space; building, home, house, room\"], usage: Some(\"core\")),",
  "    \"utala\": Entry(definitions: [\"(verb) to battle, challenge, compete against, struggle against\"], usage: Some(\"core\")),",
  "    \"waso\": Entry(definitions: [\"(noun) bird, flying creature, winged animal\"], usage: Some(\"core\")),",
  "    \"wile\": Entry(definitions: [\"(preverb) must, need, require, should, want, wish\"], usage: Some(\"core\")),",
  "\x7d"]

def shortText : String := textOf [
  "// Small dictionary for integration tests. No content word is \"ala\".",
  "\x7b",
  "    \"jan\": Entry(definitions: [\"(noun) person\"], usage: Some(\"core\")),",
  "    \"kili\": Entry(definitions: [\"(noun) fruit\"], usage: Some(\"core\")),",
  "    \"moku\": Entry(definitions: [\"(verb) to eat\", \"(noun) food\"], usage: Some(\"core\")),",
  "    \"tomo\": Entry(definitions: [\"(noun) house, room\"], usage: Some(\"core\")),",
  "    \"telo\": Entry(definitions: [\"(noun) water\"], usage: Some(\"core\")),",
  "    \"pona\": Entry(definitions: [\"(adjective) good\"], usage: Some(\"core\")),",
  "    \"ken\": Entry(definitions: [\"(preverb) can\", \"(noun) possibility\"], usage: Some(\"core\")),",
  "    \"wile\": Entry(definitions: [\"(preverb) want\"], usage: Some(\"core\")),",
  "    \"lon\": Entry(definitions: [\"(preposition) at, in\"], usage: Some(\"core\")),",
  "    \"tan\": Entry(definitions: [\"(preposition) from\"], usage: Some(\"core\")),",
  "    \"tawa\": Entry(definitions: [\"(preposition) toward\", \"(adjective) moving\"], usage: Some(\"core\")),",
  "    \"mi\": Entry(definitions: [\"(noun) I, we\"], usage: Some(\"core\")),",
  "    \"sina\": Entry(definitions: [\"(noun) you\"], usage: Some(\"core\")),",
  "    \"ona\": Entry(definitions: [\"(noun) they\"], usage: Some(\"core\")),",
  "    \"ni\": Entry(definitions: [\"(noun) this\"], usage: Some(\"core\")),",
  "    \"pi\": Entry(definitions: [\"(particle) of\"], usage: Some(\"core\")),",
  "    \"monsuta\": Entry(definitions: [\"(noun) monster\"], usage: Some(\"obscure\")),",
  "\x7d"]

/-- One word of each role that is drawn from; a pronoun needs no definition. -/
def leastText : String := String.join [
  "\x7b\"mi\":(),",
  "\"moku\":(definitions:[\"\"]),",
  "\"ken\":(definitions:[\"(preverb)\"]),",
  "\"tan\":(definitions:[\"(preposition)\"])\x7d"]

end TokiSentences.Dictionary
